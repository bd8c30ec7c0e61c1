import PipeShell.System.Machine

/-!
# Finding and starting programs

A name with a slash in it is the path of a program; any other is looked for in
the directories of the environment's `PATH`, where one that may not be run is
passed over but remembered.  A file that names its interpreter in a first line
beginning with `#!` is run by it, and a file of any other content is taken for
a script of the shell `sh`.
-/

namespace PipeShell

/-- A script's interpreter, with the one argument that it may be given in the
script's first line. -/
structure Interpreter where
  path : String
  argument : Option String
  deriving DecidableEq, Repr

namespace Interpreter

/-- The number of bytes at the beginning of a script that are looked at. -/
def headSize : Nat := 256

def isBlank (b : UInt8) : Bool :=
  b == 32 || b == 9

def dropTrailingBlanks (bytes : Bytes) : Bytes :=
  (bytes.reverse.dropWhile isBlank).reverse

/-- The interpreter named in a first line that ends with a line feed. -/
def ofLine (line : Bytes) : Option Interpreter :=
  let line := (dropTrailingBlanks line).dropWhile isBlank
  let name := line.takeWhile (!isBlank ·)
  let argument := (line.drop name.length).dropWhile isBlank
  if name.isEmpty then none
  else some ⟨nameOfBytes name, if argument.isEmpty then none else some (nameOfBytes argument)⟩

/-- The interpreter named in a first line of which no end is in sight.  Behind
the end of a file there are zeros, and its name must be at an end. -/
def ofOpenLine (line : Bytes) : Option Interpreter :=
  let start := line.dropWhile isBlank
  if start.isEmpty || !start.any (fun b ↦ isBlank b || b == 0) then none
  else
    let text := dropTrailingBlanks line.dropLast |>.dropWhile isBlank
    let name := text.takeWhile fun b ↦ !isBlank b && b != 0
    match text.drop name.length with
    | b :: rest =>
        if b == 0 then some ⟨nameOfBytes name, none⟩
        else some ⟨nameOfBytes name, some (nameOfBytes ((rest.dropWhile isBlank).takeWhile (· != 0)))⟩
    | [] => some ⟨nameOfBytes name, none⟩

/-- The interpreter that a file names. -/
def ofFile (data : Bytes) : Option Interpreter :=
  match data.take headSize with
  | 0x23 :: 0x21 :: rest =>
      match rest.span fun b ↦ b != 10 && b != 0 with
      | (line, 10 :: _) => ofLine line
      | _ => ofOpenLine (rest ++ List.replicate (headSize - 2 - rest.length) 0)
  | _ => none

end Interpreter

namespace Machine

/-- Where programs are looked for if the environment does not say. -/
def usualPath : String := "/bin:/usr/bin"

/-- The interpreter of scripts that name none. -/
def scriptShell : String := "/bin/sh"

/-- The number of interpreters that may interpret one another. -/
def interpreterLimit : Nat := 5

/-- The first length, in bytes, that is too long for one argument. -/
def argumentLimit : Nat := 131072

/-- The most that all arguments of a program may take up, each with its ending
byte and the address it is found at. -/
def argumentsLimit : Nat := 2097152

/-- Whether the arguments fit. -/
def argumentsFit (args : List String) : Bool :=
  args.all (·.utf8ByteSize < argumentLimit) &&
    args.foldr (fun a n ↦ a.utf8ByteSize + 9 + n) 0 ≤ argumentsLimit

/-- The program in the file of a path, given its arguments. -/
def loadFile (m : Machine) (cwd : NodeId) (environment : Environment) (depth : Nat)
    (path : String) (args : List String) : Except Errno Program :=
  match m.tree.resolve cwd path with
  | .error e => .error e
  | .ok id =>
      match m.tree.node? id with
      | some (.program main) =>
          if argumentsFit args then .ok (main args environment) else .error .argumentsTooLong
      | some (.file data _) =>
          if !m.tree.grants id .enter then .error .accessDenied
          else if !argumentsFit args then .error .argumentsTooLong
          else
            match Interpreter.ofFile data, depth with
            | some i, depth + 1 =>
                m.loadFile cwd environment depth i.path
                  (i.path :: i.argument.toList ++ path :: args.drop 1)
            | some _, 0 => .error .linkLoop
            | none, _ => .error .notExecutable
      | _ => .error .accessDenied

/-- The program in the file of a path; any file that may be run is at least a
script. -/
def loadPath (m : Machine) (cwd : NodeId) (environment : Environment) (path : String)
    (args : List String) : Except Errno Program :=
  match m.loadFile cwd environment interpreterLimit path args with
  | .error e =>
      if e = .notExecutable then
        m.loadFile cwd environment interpreterLimit scriptShell
          (scriptShell :: path :: args.drop 1)
      else .error e
  | found => found

/-- The path of a name in a directory of the search path, where the empty one is
the current directory. -/
def pathIn (directory name : String) : String :=
  if directory = "" then name else directory ++ "/" ++ name

/-- Looks for a program in some directories.  If there is none, the reason is
that of the last directory, or that one found may not be run. -/
def search (m : Machine) (cwd : NodeId) (environment : Environment) (name : String)
    (args : List String) (denied : Bool) (last : Errno) : List String → Except Errno Program
  | [] => .error (if denied then .accessDenied else last)
  | directory :: rest =>
      match m.loadPath cwd environment (pathIn directory name) args with
      | .error e =>
          if e = .accessDenied then m.search cwd environment name args true e rest
          else if e = .noEntry ∨ e = .notDirectory then
            m.search cwd environment name args denied e rest
          else .error e
      | found => found

/-- The program that the first argument names. -/
def load (m : Machine) (cwd : NodeId) (environment : Environment) (args : List String) :
    Except Errno Program :=
  match args with
  | [] => .error .noEntry
  | name :: _ =>
      if name = "" then .error .noEntry
      else if name.contains '/' then m.loadPath cwd environment name args
      else
        let path := (environment.value? "PATH").getD usualPath
        m.search cwd environment name args false .noEntry (path.splitOn ":")

end Machine

end PipeShell

import PipeShell.Userland.Options

/-!
# Parts of paths

The programs `basename`, `dirname`, `pwd`, `readlink` and `realpath`, and how paths
are taken apart and put together.
-/

namespace PipeShell.Userland

open PipeShell.Userland.Action

/-! ## Taking paths apart -/

/-- A path without the slashes at its end; one of slashes only keeps one. -/
def withoutSlashes (path : String) : String :=
  let kept := (path.toList.reverse.dropWhile (· == '/')).reverse
  if kept.isEmpty && path ≠ "" then "/" else String.ofList kept

/-- The last name on a path. -/
def lastName (path : String) : String :=
  let path := withoutSlashes path
  if path = "/" then path
  else String.ofList (path.toList.reverse.takeWhile (· != '/')).reverse

/-- The path of the directory that the last name stands in. -/
def directoryOf (path : String) : String :=
  let short := withoutSlashes path
  let rest := (short.toList.reverse.dropWhile (· != '/')).reverse
  if short = "/" then short
  else if rest.isEmpty then "."
  else withoutSlashes (String.ofList rest)

/-- A name in a directory. -/
def inDirectory (directory name : String) : String :=
  if directory.endsWith "/" then directory ++ name else directory ++ "/" ++ name

/-- Takes a suffix off a name that is more than that. -/
def withoutSuffix (suffix name : String) : String :=
  if suffix ≠ "" && name ≠ suffix && name.endsWith suffix then
    String.ofList (name.toList.take (name.length - suffix.length))
  else name

/-- What ends each line that a program writes. -/
def lineEnding (a : Arguments) : String :=
  if a.has "z" then "\x00" else "\n"

/-- The program `basename`. -/
def basenameMain (c : Call) : Action Nat := do
  let a ← c.readInFront
    [.flag 'a' "multiple", (Choice.flag 's' "suffix").valued, .flag 'z' "zero"] 1
  let suffix := a.value? "s"
  match a.operands with
  | [] => c.missingOperand
  | path :: rest =>
      if a.has "a" || suffix.isSome then
        for path in path :: rest do
          c.say (withoutSuffix (suffix.getD "") (lastName path) ++ lineEnding a)
        return 0
      if let some extra := rest[1]? then c.extraOperand extra
      c.say (withoutSuffix (rest.headD "") (lastName path) ++ lineEnding a)
      return 0

/-- The program `dirname`. -/
def dirnameMain (c : Call) : Action Nat := do
  let a ← c.readInFront [.flag 'z' "zero"] 1
  if a.operands.isEmpty then c.missingOperand
  for path in a.operands do
    c.say (directoryOf path ++ lineEnding a)
  return 0

/-! ## Where paths lead -/

/-- The path that names lead along from the root. -/
def rootedPath (names : List String) : String :=
  "/" ++ "/".intercalate names

/-- The path of the current directory. -/
def currentPath : Action (Except Errno String) := do
  match ← names .here with
  | .ok found => return .ok (rootedPath found)
  | .error e => return .error e

/-- The program `pwd`. -/
def pwdMain (c : Call) : Action Nat := do
  let a ← c.read [.flag 'L' "logical", .flag 'P' "physical"] 1
  if !a.operands.isEmpty then c.warn "ignoring non-option arguments"
  match ← currentPath with
  | .ok path =>
      c.say (path ++ "\n")
      return 0
  | .error _ => c.die 1 "couldn't find directory entry in '..' with matching i-node"

/-- Which names on a path must be there. -/
inductive Demand where
  | all
  /-- All but the last one. -/
  | parents
  | none
  deriving DecidableEq, Repr

/-- Follows names from the root; what has been gone along is given with the last
name first.  Symbolic links are followed unless they are to be kept. -/
def follow (demand : Demand) (keepLinks : Bool) (slashed : Bool) :
    Nat → List String → List String → Action (Except Errno (List String))
  | 0, _, _ => return .error .linkLoop
  | _, gone, [] => return .ok gone
  | limit + 1, gone, name :: rest => do
      if name = "." then follow demand keepLinks slashed limit gone rest
      else if name = ".." then follow demand keepLinks slashed limit (gone.drop 1) rest
      else
        let path := rootedPath (name :: gone).reverse
        let goOn := follow demand keepLinks slashed limit
        match ← facts (.facts path keepLinks) with
        | .error e =>
            let fine := demand = .none || demand = .parents && e = .noEntry && rest.isEmpty
            if fine then follow demand keepLinks slashed limit (name :: gone) rest
            else return .error e
        | .ok f =>
            if f.kind = .link && !keepLinks then
              match ← ask (.readLink path) with
              | .text target =>
                  let steps := (target.splitOn "/").filter (· ≠ "")
                  if target.startsWith "/" then
                    follow demand keepLinks slashed limit [] (steps ++ rest)
                  else follow demand keepLinks slashed limit gone (steps ++ rest)
              | .failed e => return .error e
              | _ => return .error .invalid
            else if f.kind ≠ .directory && demand ≠ .none && (!rest.isEmpty || slashed) then
              return .error .notDirectory
            else goOn (name :: gone) rest

/-- The number of steps that a path may take with all links on it. -/
def stepLimit : Nat := 10000

/-- The path from the root to what a path leads to, without links. -/
def resolvePath (demand : Demand) (keepLinks : Bool) (path : String) :
    Action (Except Errno String) := do
  if path = "" then return .error .noEntry
  let steps := (path.splitOn "/").filter (· ≠ "")
  let start ← if path.startsWith "/" then pure (.ok []) else names .here
  match start with
  | .error e => return .error e
  | .ok start =>
      match ← follow demand keepLinks (path.endsWith "/") stepLimit start.reverse steps with
      | .ok gone => return .ok (rootedPath gone.reverse)
      | .error e => return .error e

/-- The program `readlink`. -/
def readlinkMain (c : Call) : Action Nat := do
  let a ← c.read
    [.flag 'f' "canonicalize", .flag 'e' "canonicalize-existing", .flag 'm' "canonicalize-missing",
      .flag 'n' "no-newline", .flag 'q' "quiet", .flag 's' "silent", .flag 'v' "verbose",
      .flag 'z' "zero"] 1
  if a.operands.isEmpty then c.missingOperand
  let quiet := a.last? ["v", "q", "s"] != some "v"
  let single := a.operands.length = 1
  if a.has "n" && !single then c.warn "ignoring --no-newline with multiple arguments"
  let ending := if a.has "n" && single then "" else lineEnding a
  let find (path : String) : Action (Except Errno String) := do
    match a.last? ["f", "e", "m"] with
    | some "f" => resolvePath .parents false path
    | some "e" => resolvePath .all false path
    | some _ => resolvePath .none false path
    | none =>
        match ← ask (.readLink path) with
        | .text target => return .ok target
        | .failed e => return .error e
        | _ => return .error .invalid
  let mut code := 0
  for path in a.operands do
    match ← find path with
    | .ok found => c.say (found ++ ending)
    | .error e =>
        code := 1
        if !quiet then c.warn s!"{shownName path}: {e.text}"
  return code

/-- A path as seen from a directory, both given from the root. -/
def relativeTo (directory path : String) : String :=
  let here := (directory.splitOn "/").filter (· ≠ "")
  let there := (path.splitOn "/").filter (· ≠ "")
  let shared := ((here.zip there).takeWhile fun (a, b) ↦ a == b).length
  let steps := List.replicate (here.length - shared) ".." ++ there.drop shared
  if steps.isEmpty then "." else "/".intercalate steps

/-- The program `realpath`. -/
def realpathMain (c : Call) : Action Nat := do
  let a ← c.read
    [.flag 'e' "canonicalize-existing", .flag 'm' "canonicalize-missing", .flag 'L' "logical",
      .flag 'P' "physical", .flag 'q' "quiet", .flag 's' "strip", (Choice.word "no-symlinks").meaning "s",
      .flag 'z' "zero", (Choice.word "relative-to").valued, (Choice.word "relative-base").valued] 1
  if a.operands.isEmpty then c.missingOperand
  let demand : Demand :=
    match a.last? ["e", "m"] with
    | some "e" => .all
    | some _ => .none
    | none => .parents
  let find := resolvePath demand (a.has "s")
  let directory ←
    match a.value? "relative-to" with
    | none => pure none
    | some path =>
        match ← find path with
        | .ok found => pure (some found)
        | .error e => c.die 1 s!"{shownName path}: {e.text}"
  let mut code := 0
  for path in a.operands do
    match ← find path with
    | .ok found =>
        let shown :=
          match directory with
          | some directory => relativeTo directory found
          | none => found
        c.say (shown ++ lineEnding a)
    | .error e =>
        code := 1
        if !a.has "q" then c.warn s!"{shownName path}: {e.text}"
  return code

end PipeShell.Userland

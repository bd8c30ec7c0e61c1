import PipeShell.Userland.Modes
import PipeShell.Userland.Paths
import PipeShell.Userland.Sizes

/-!
# Making and removing names

The programs `touch`, `mkdir`, `rmdir`, `link`, `unlink`, `ln` and `truncate`.  Each
goes through its operands and ends with a code that says whether all of them could
be done.
-/

namespace PipeShell.Userland

open PipeShell.Userland.Action

/-- The code of a program that has done everything, or not. -/
def codeOf (good : Bool) : Nat :=
  if good then 0 else 1

/-- Does something for each operand, and tells whether all went well. -/
def forAll {α : Type} (operands : List α) (f : α → Action Bool) : Action Bool := do
  let mut good := true
  for operand in operands do
    if !(← f operand) then good := false
  return good

/-! ## Files -/

/-- Whether a text could be a date. -/
def looksLikeDate (text : String) : Bool :=
  let words := (text.toLower.splitOn " ").filter (· ≠ "")
  let known := ["now", "today", "yesterday", "tomorrow", "ago", "day", "days", "hour", "hours", "week",
    "weeks", "utc", "gmt", "jan", "feb", "mar", "apr", "may", "jun", "jul", "aug", "sep", "oct",
    "nov", "dec", "mon", "tue", "wed", "thu", "fri", "sat", "sun", "next", "last", "year", "years",
    "month", "months", "minute", "minutes", "second", "seconds", "am", "pm"]
  words.all fun word ↦
    known.contains word || word.any Char.isDigit || word.length = 1 && word.all Char.isAlpha

/-- Whether a text is the digits of a time. -/
def isStamp (text : String) : Bool :=
  let parts := text.splitOn "."
  let digits := parts.headD ""
  digits.all Char.isDigit && [8, 10, 12].contains digits.length &&
    (parts.length = 1 || parts.length = 2 && (parts.getD 1 "").length = 2 &&
      (parts.getD 1 "").all Char.isDigit)

/-- Sets the times of a file, which is made if it is to be; `patient` says whether it
may be missing otherwise. -/
def touchFile (c : Call) (patient makes follow : Bool) (path : String) : Action Bool := do
  if path = "-" then return true
  let setting (e : Errno) : Action Bool := do
    c.warn s!"setting times of {quotedName path}: {e.text}"
    return false
  let known ← facts (.facts path follow)
  if !makes then
    match known with
    | .error e =>
        if patient && e = .noEntry then return true
        return ← setting e
    | .ok _ => return true
  match known, ← request (.touch path) with
  | .ok _, _ | _, none => return true
  | .error missing, some e =>
      if e = .isDirectory || e = .invalid || e = .notPermitted then setting missing
      else
        c.warn s!"cannot touch {quotedName path}: {e.text}"
        return false

/-- What is wrong with the digits of a time. -/
def stampFault? (text : String) : Option Complaint :=
  if isStamp text then none else some (.plain s!"invalid date format {quoted text}")

/-- The program `touch`. -/
def touchMain (c : Call) : Action Nat := do
  let times := (Choice.word "time").valued.among [["atime", "access", "use"], ["mtime", "modify"]]
  let a ← c.read
    [.letter 'a', .flag 'c' "no-create", (Choice.flag 'd' "date").valued, .letter 'f',
      .flag 'h' "no-dereference", .letter 'm', (Choice.flag 'r' "reference").valued,
      (Choice.letter 't').valued.checked stampFault?, times] 1
  if a.has "t" && (a.has "r" || a.has "d") then
    c.misuse 1 "cannot specify times from more than one source"
  if let some path := a.value? "r" then
    if let .error e ← facts (.facts path (!a.has "h")) then
      c.die 1 s!"failed to get attributes of {quotedName path}: {e.text}"
  if let some text := a.value? "d" then
    if !looksLikeDate text then c.die 1 s!"invalid date format {quoted text}"
  if a.operands.isEmpty then c.misuse 1 "missing file operand"
  let makes := !a.has "c" && !a.has "h"
  return codeOf (← forAll a.operands (touchFile c (a.has "c") makes (!a.has "h")))

/-- How a size is given to `truncate`. -/
inductive SizeChange where
  | exact
  | relative
  | atMost
  | atLeast
  | roundDown
  | roundUp
  deriving DecidableEq, Repr

namespace SizeChange

/-- The change that a sign asks for. -/
def ofSign? (c : UInt8) : Option SizeChange :=
  [(0x3C, .atMost), (0x3E, .atLeast), (0x2F, .roundDown), (0x25, .roundUp)].lookup c

/-- Reads a change and its size. -/
def read (text : String) : Except Complaint (SizeChange × Int) := do
  let bytes := (encode text).dropWhile isSpace
  let change := bytes.head?.bind ofSign?
  let bytes := (if change.isSome then bytes.drop 1 else bytes).dropWhile isSpace
  let signed := bytes.head? == some 0x2B || bytes.head? == some 0x2D
  if signed && change.isSome then throw (.misread "multiple relative modifiers specified")
  let change := change.getD (if signed then .relative else .exact)
  let n ←
    match readSize "EgGkKmMPQRtTYZ" (nameOfBytes (if signed then bytes.drop 1 else bytes)) with
    | .ok n =>
        let n : Int := if bytes.head? == some 0x2D then -n else n
        if -halfModulus ≤ n && n < halfModulus then pure n
        else throw (.plain s!"Invalid number: {quoted (nameOfBytes bytes)}: {Errno.overflow.text}")
    | .error .tooLarge =>
        throw (.plain s!"Invalid number: {quoted (nameOfBytes bytes)}: {Errno.overflow.text}")
    | .error _ => throw (.plain s!"Invalid number: {quoted (nameOfBytes bytes)}")
  if n = 0 && (change = .roundDown || change = .roundUp) then throw (.plain "division by zero")
  return (change, n)

/-- What is wrong with the text of a change. -/
def fault? (text : String) : Option Complaint :=
  match read text with
  | .ok _ => none
  | .error complaint => some complaint

/-- The new size of a file. -/
def apply (old n : Int) : SizeChange → Int
  | .exact => n
  | .relative => old + n
  | .atMost => min old n
  | .atLeast => max old n
  | .roundDown => old - old % n
  | .roundUp => old + (-old) % n

end SizeChange

/-- Changes the size of a file, which is made if it is to be. -/
def truncateFile (c : Call) (makes : Bool) (reference : Option Nat) (change : SizeChange) (n : Int)
    (path : String) : Action Bool := do
  match ← number (.openFile path (if makes then .append 0o666 else .change)) with
  | .error e =>
      if !makes && e = .noEntry then return true
      c.warn s!"cannot open {quotedName path} for writing: {e.text}"
      return false
  | .ok fd =>
      let size := (← facts (.factsOf fd)).toOption.elim 0 (·.size)
      let new := (change.apply (reference.getD size) n).toNat
      let refused ← request (.resize fd new)
      perform (.close fd)
      match refused with
      | none => return true
      | some e =>
          c.warn s!"failed to truncate {quotedName path} at {new} bytes: {e.text}"
          return false

/-- The size of the blocks that a file may be measured in. -/
def fileBlock : Int := 4096

/-- The program `truncate`. -/
def truncateMain (c : Call) : Action Nat := do
  let a ← c.read
    [.flag 'c' "no-create", .flag 'o' "io-blocks", (Choice.flag 'r' "reference").valued,
      (Choice.flag 's' "size").valued.checked SizeChange.fault?] 1
  let given := (a.value? "s").bind fun text ↦ (SizeChange.read text).toOption
  if !a.has "s" && !a.has "r" then
    c.misuse 1 "you must specify either '--size' or '--reference'"
  if a.has "r" && given.any (·.1 = .exact) then
    c.misuse 1 "you must specify a relative '--size' with '--reference'"
  if a.has "o" && !a.has "s" then c.misuse 1 "'--io-blocks' was specified but '--size' was not"
  if a.operands.isEmpty then c.misuse 1 "missing file operand"
  let reference ←
    match a.value? "r" with
    | none => pure none
    | some path =>
        match ← facts (.facts path true) with
        | .ok f => pure (some f.size)
        | .error e => c.die 1 s!"cannot stat {quotedName path}: {e.text}"
  let (change, n) := given.getD (.relative, 0)
  let n := if a.has "o" then n * fileBlock else n
  return codeOf (← forAll a.operands (truncateFile c (!a.has "c") reference change n))

/-- The program `unlink`. -/
def unlinkMain (c : Call) : Action Nat := do
  let a ← c.read [] 1
  match a.operands with
  | [] => c.missingOperand
  | [path] =>
      match ← request (.removeFile path) with
      | none => return 0
      | some e => c.die 1 s!"cannot unlink {quotedName path}: {e.text}"
  | _ :: extra :: _ => c.extraOperand extra

/-- The program `link`. -/
def linkMain (c : Call) : Action Nat := do
  let a ← c.read [] 1
  match a.operands with
  | [] => c.missingOperand
  | [path] => c.misuse 1 s!"missing operand after {quoted path}"
  | [path, name] =>
      match ← request (.link path name) with
      | none => return 0
      | some e =>
          c.die 1 s!"cannot create link {quotedName name} to {quotedName path}: {e.text}"
  | _ :: _ :: extra :: _ => c.extraOperand extra

/-! ## Directories -/

/-- The permissions that a change makes of those of a new directory. -/
def newPermissions (c : Call) (text : Option String) (usual : Nat) : Action (Option Nat) := do
  match text with
  | none => return none
  | some text =>
      match ModeClause.ofText text with
      | some clauses =>
          let mask ← currentMask
          return some (ModeClause.applyAll true mask clauses usual)
      | none => c.die 1 s!"invalid mode {quoted text}"

/-- The paths of the directories that a path leads through, the first one first,
as the path spells them. -/
def pathsThrough (path : String) : List String :=
  let step (state : List String × String) (name : String) : List String × String :=
    let (found, begun) := state
    if name = "" then (found, begun ++ "/") else (found ++ [begun ++ name], begun ++ name ++ "/")
  ((path.splitOn "/").foldl step ([], "")).1

/-- Makes a directory, with the permissions given if there are any. -/
def makeOne (c : Call) (mode : Option Nat) (loud : Bool) (path : String) : Action (Option Errno) := do
  match ← request (.makeDirectory path 0o777) with
  | some e => return some e
  | none =>
      if let some mode := mode then perform (.setPermissions path mode)
      if loud then c.say s!"mkdir: created directory {quotedName path}\n"
      return none

/-- Makes a directory and those that it stands in. -/
def makeThrough (c : Call) (mode : Option Nat) (loud : Bool) (path : String) : Action Bool := do
  let paths := pathsThrough path
  let failed (path : String) (e : Errno) : Action Bool := do
    c.warn s!"cannot create directory {quotedName path}: {e.text}"
    return false
  if paths.isEmpty then
    if path = "" then failed path .noEntry else return true
  else go failed (← currentMask) paths
where
  go (failed : String → Errno → Action Bool) (mask : Nat) : List String → Action Bool
    | [] => return true
    | path :: rest => do
        match ← facts (.facts path true) with
        | .ok f =>
            if f.kind = .directory then go failed mask rest
            else failed path (if rest.isEmpty then .alreadyExists else .notDirectory)
        | .error found =>
            if found ≠ .noEntry && found ≠ .notDirectory && found ≠ .linkLoop then
              failed path found
            else
              let between := if mask &&& 0o300 = 0 then none
                else some (ModeClause.without 0o777 mask ||| 0o300)
              match ← makeOne c (if rest.isEmpty then mode else between) loud path with
              | none => go failed mask rest
              | some e => failed path e

/-- The program `mkdir`. -/
def mkdirMain (c : Call) : Action Nat := do
  let a ← c.read
    [(Choice.flag 'm' "mode").valued, .flag 'p' "parents", .flag 'v' "verbose", .letter 'Z',
      (Choice.word "context").maybeValued] 1
  if a.operands.isEmpty then c.missingOperand
  let mode ← newPermissions c (a.value? "m") 0o777
  return codeOf (← forAll a.operands fun path ↦ do
    if a.has "p" then makeThrough c mode (a.has "v") path
    else
      match ← makeOne c mode (a.has "v") path with
      | none => return true
      | some e =>
          c.warn s!"cannot create directory {quotedName path}: {e.text}"
          return false)

/-- Removes a directory, and then those that it stands in if that is asked for. -/
def removeThrough (c : Call) (loud patient parents : Bool) (top : Bool) :
    Nat → String → Action Bool
  | 0, _ => return true
  | limit + 1, path => do
      if loud then c.say s!"rmdir: removing directory, {quotedName path}\n"
      match ← request (.removeDirectory path) with
      | some e =>
          if patient && (e = .notEmpty || e = .alreadyExists) then return true
          let known ← facts (.facts path true)
          let found ← facts (.facts (withoutSlashes path) false)
          let isLink := e = .notDirectory && path.endsWith "/" &&
            (match known with
            | .ok f => f.kind = .directory
            | .error e => e ≠ .notDirectory) && found.toOption.any (·.kind = .link)
          let reason := if isLink then "Symbolic link not followed" else e.text
          let what := if top then "" else "directory "
          c.warn s!"failed to remove {what}{quotedName path}: {reason}"
          return false
      | none =>
          let above := (withoutSlashes path).toList.reverse.dropWhile (· != '/')
          let above := (above.dropWhile (· == '/')).reverse
          if parents && !above.isEmpty then
            removeThrough c loud patient parents false limit (String.ofList above)
          else return true

/-- The program `rmdir`. -/
def rmdirMain (c : Call) : Action Nat := do
  let a ← c.read
    [.word "ignore-fail-on-non-empty", .flag 'p' "parents", .flag 'v' "verbose"] 1
  if a.operands.isEmpty then c.missingOperand
  let patient := a.has "ignore-fail-on-non-empty"
  return codeOf (← forAll a.operands fun path ↦
    removeThrough c (a.has "v") patient (a.has "p") true (path.length + 1) path)

/-! ## Links -/

/-- How `ln` makes links. -/
structure LinkStyle where
  symbolic : Bool
  forced : Bool
  loud : Bool
  /-- Whether the link itself is taken where a link is to be linked. -/
  keepsLinks : Bool
  /-- Whether what a symbolic link names is told from where the link stands. -/
  relative : Bool

/-- Makes a link. -/
def linkOne (c : Call) (style : LinkStyle) (target name : String) : Action Bool := do
  let known ← facts (.facts target (!style.keepsLinks))
  let there ← facts (.facts name false)
  if !style.symbolic then
    match known with
    | .error e =>
        c.warn s!"failed to access {quotedName target}: {e.text}"
        return false
    | .ok f =>
        if f.kind = .directory then
          c.warn s!"{shownName target}: hard link not allowed for directory"
          return false
  if style.forced then
    match there, ← facts (.facts target true) with
    | .ok f, .ok g =>
        if f.kind = .directory then
          c.warn s!"{shownName name}: cannot overwrite directory"
          return false
        if f.number = g.number && lastName target = lastName name then
          c.warn s!"{quotedName target} and {quotedName name} are the same file"
          return false
        if f.number = g.number && !style.symbolic then return true
    | _, _ => pure ()
    if there.isOk then perform (.removeFile name)
  let told ←
    if style.relative && style.symbolic then do
      let directory ← resolvePath .none false (directoryOf name)
      let found ← resolvePath .none false target
      match directory, found with
      | .ok directory, .ok found => pure (relativeTo directory found)
      | _, _ => pure target
    else pure target
  let source ←
    if style.symbolic || style.keepsLinks then pure target
    else do
      match ← resolvePath .all false target with
      | .ok found => pure found
      | .error _ => pure target
  match ← request (if style.symbolic then .makeLink told name else .link source name) with
  | none =>
      if style.loud then
        let arrow := if style.symbolic then "->" else "=>"
        c.say s!"{quotedName name} {arrow} {quotedName told}\n"
      return true
  | some e =>
      let what := if style.symbolic then "symbolic link" else "hard link"
      let rest :=
        if style.symbolic then (if target = "" then " -> ''" else "")
        else if e = .alreadyExists then ""
        else s!" => {quotedName target}"
      c.warn s!"failed to create {what} {quotedName name}{rest}: {e.text}"
      return false

/-- Where the results of a program that takes sources and a target go. -/
inductive Destination where
  | directory (path : String)
  | name (path : String)
  deriving DecidableEq, Repr

/-- Whether a path leads to a directory; a link at its end may not count. -/
def leadsToDirectory (path : String) (follow : Bool) : Action Bool := do
  return (← facts (.facts path follow)).toOption.any (·.kind = .directory)

/-- The program `ln`. -/
def lnMain (c : Call) : Action Nat := do
  let a ← c.read
    [.flag 's' "symbolic", .flag 'f' "force", .flag 'v' "verbose", .flag 'n' "no-dereference",
      .flag 'T' "no-target-directory", (Choice.flag 't' "target-directory").valued,
      .flag 'L' "logical", .flag 'P' "physical", .flag 'r' "relative", .flag 'i' "interactive",
      .flag 'd' "directory", .letter 'F', .letter 'b', (Choice.flag 'S' "suffix").valued,
      (Choice.word "backup").maybeValued] 1
  if a.has "r" && !a.has "s" then c.die 1 "cannot do --relative without --symbolic"
  let keepsLinks := a.last? ["L", "P"] != some "L"
  let style : LinkStyle := ⟨a.has "s", a.has "f", a.has "v", keepsLinks, a.has "r"⟩
  let (sources, destination) ← do
    match a.value? "t", a.operands with
    | _, [] => c.misuse 1 "missing file operand"
    | some directory, sources =>
        match ← facts (.facts directory true) with
        | .error e => c.die 1 s!"failed to access {quotedName directory}: {e.text}"
        | .ok f =>
            if f.kind ≠ .directory then
              c.die 1 s!"target {quotedName directory} is not a directory"
            pure (sources, Destination.directory directory)
    | none, [source] =>
        if a.has "T" then c.misuse 1 s!"missing destination file operand after {quotedName source}"
        pure ([source], Destination.directory ".")
    | none, operands =>
        let target := operands.getLastD ""
        let sources := operands.dropLast
        if a.has "T" then
          if let some extra := sources[1]? then
            c.misuse 1 s!"extra operand {quotedName (if sources.length = 1 then extra else target)}"
          pure (sources, Destination.name target)
        else if ← leadsToDirectory target (!a.has "n") then
          pure (sources, Destination.directory target)
        else if sources.length = 1 then pure (sources, Destination.name target)
        else
          let reason :=
            match ← facts (.facts target true) with
            | .error e => e
            | .ok _ => Errno.notDirectory
          c.die 1 s!"target {quotedName target}: {reason.text}"
  return codeOf (← forAll sources fun source ↦
    match destination with
    | .directory path => linkOne c style source (inDirectory path (lastName source))
    | .name path => linkOne c style source path)

end PipeShell.Userland

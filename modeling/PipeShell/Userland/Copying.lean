import PipeShell.Userland.Removing

/-!
# Copying and moving

The programs `cp` and `mv`.  Both take sources and a destination; if that is a
directory, each source goes into it under its last name.
-/

namespace PipeShell.Userland

open PipeShell.Userland.Action

/-- What is done with a source that is to go where something is already. -/
inductive Replacing where
  | always
  | ask
  | never
  /-- Only what is older. -/
  | older
  deriving DecidableEq, Repr

/-- How files are copied or moved. -/
structure CopyStyle where
  recursive : Bool
  /-- Whether symbolic links are copied as links. -/
  keepsLinks : Bool
  /-- Whether permissions are kept whatever the mask. -/
  preserves : Bool
  /-- Whether what cannot be written over is removed first. -/
  forced : Bool
  /-- Whether what is written over is removed first. -/
  removes : Bool
  replacing : Replacing
  /-- What is put behind the name of a file that is kept when another takes its
  place. -/
  backup : Option String
  loud : Bool
  /-- Whether links are made instead of copies. -/
  links : Bool
  symbolic : Bool
  moves : Bool

/-- The complaints about names and where they lead. -/
def complain (c : Call) (text : String) : Action Bool := do
  c.warn text
  return false

/-- Copies the bytes of a file. -/
def copyData (c : Call) (style : CopyStyle) (permissions : Nat) (source target : String)
    (fresh : Bool) : Action Bool := do
  match ← number (.openFile source .read) with
  | .error e => complain c s!"cannot open {quotedName source} for reading: {e.text}"
  | .ok input =>
      let input ← awayFromStreams input
      let kept := permissions &&& 0o777
      let first ← number (.openFile target (if fresh then .create kept else .write kept))
      let opened ←
        match first with
        | .ok fd => pure (.ok fd)
        | .error e =>
            if style.forced && !fresh && e = .accessDenied then do
              perform (.removeFile target)
              number (.openFile target (.create kept))
            else pure (.error e)
      match opened with
      | .error e =>
          perform (.close input)
          let e := if fresh && e = .isDirectory then Errno.notDirectory else e
          complain c s!"cannot create regular file {quotedName target}: {e.text}"
      | .ok output =>
          let output ← awayFromStreams output
          let pass (_ : Unit) (piece : Bytes) : Action (Unit × Bool) := do
            match ← write output piece with
            | none => return ((), false)
            | some e =>
                c.warn s!"error writing {quotedName target}: {e.text}"
                stop 1
          let (_, failed) ← forPieces input pieceSize pass pieceLimit ()
          perform (.close output)
          perform (.close input)
          if style.preserves then perform (.setPermissions target permissions)
          match failed with
          | some e => complain c s!"error reading {quotedName source}: {e.text}"
          | none => return true

/-- Makes way for what comes to a name, and tells what to say of a backup. -/
def makeWay (style : CopyStyle) (target : String) (there : Bool) : Action (String × Bool) := do
  match style.backup with
  | none =>
      if style.removes && there then
        perform (.removeFile target)
        return ("", false)
      return ("", there)
  | some suffix =>
      if !there then return ("", false)
      let kept := target ++ suffix
      perform (.rename target kept)
      return (s!" (backup: {quotedName kept})", false)

/-- Whether something may go in the place of a file that is there; if not, how the
attempt is counted. -/
def mayReplace (c : Call) (style : CopyStyle) (target : String) (f g : Facts) :
    Action (Option Bool) := do
  match style.replacing with
  | .always => return none
  | .older => return if f.number ≤ g.number then some true else none
  | .never =>
      if style.moves then c.warn s!"not replacing {quotedName target}"
      return some (!style.moves)
  | .ask =>
      let (yes, _) ← askWhether c [] s!"overwrite {quotedName target}"
      return if yes then none else some false

/-- A copy under way: what it began with, and the directories made for it. -/
structure CopyUnderWay where
  source : String
  target : String
  made : List Nat

/-- Copies what a path names; `depth` bounds how far down. -/
def copyPath (c : Call) (style : CopyStyle) (way : CopyUnderWay) :
    Nat → String → String → Action Bool
  | depth, source, target => do
      match ← facts (.facts source (!style.keepsLinks)) with
      | .error e => complain c s!"cannot stat {quotedName source}: {e.text}"
      | .ok f =>
          if f.kind = .directory && !style.recursive then
            return ← complain c s!"-r not specified; omitting directory {quotedName source}"
          if way.made.contains f.number then
            return ← complain c
              (s!"cannot copy a directory, {quotedName way.source}, into itself, " ++
                quotedName way.target)
          let plain := f.kind = .regular || f.kind = .device && !style.recursive
          let follows := plain && !style.symbolic && !style.links && !style.removes
          let there ← facts (.facts target follows)
          let link ← facts (.facts target false)
          if let .ok g := there then
            if f.number = g.number && f.kind ≠ .directory then
              if style.links && !style.symbolic then return true
              return ← complain c
                s!"{quotedName source} and {quotedName target} are the same file"
            if f.kind = .directory && g.kind ≠ .directory then
              return ← complain c
                s!"cannot overwrite non-directory {quotedName target} with directory {quotedName source}"
            if f.kind ≠ .directory && g.kind = .directory then
              return ← complain c
                s!"cannot overwrite directory {quotedName target} with non-directory"
            if f.kind ≠ .directory then
              if let some good ← mayReplace c style target f g then return good
          if f.kind = .directory then
            let said := s!"{quotedName source} -> {quotedName target}\n"
            let fresh := !there.isOk
            let outcome ←
              if fresh then request (.makeDirectory target ((f.permissions &&& 0o777) ||| 0o700))
              else pure none
            let entries ← names (.list source)
            match outcome, entries, depth with
            | some e, _, _ =>
                complain c s!"cannot create directory {quotedName target}: {e.text}"
            | none, entries, depth + 1 => do
                if style.loud && fresh then c.say said
                let number :=
                  match ← facts (.facts target true) with
                  | .ok g => g.number
                  | .error _ => 0
                let mut good := true
                match entries with
                | .error e =>
                    c.warn s!"cannot access {quotedName source}: {e.text}"
                    good := false
                | .ok entries =>
                    let made := if fresh then number :: way.made else way.made
                    for entry in entries do
                      let below ← copyPath c style { way with made } depth
                        (inDirectory source entry) (inDirectory target entry)
                      good := good && below
                if fresh then
                  let mask ← currentMask
                  let kept := if style.preserves then f.permissions
                    else ModeClause.without (f.permissions &&& 0o777) mask
                  perform (.setPermissions target kept)
                return good
            | none, _, 0 => return true
          else if plain && !style.symbolic && !style.links && !there.isOk && link.isOk &&
              !style.removes && style.backup.isNone then
            complain c s!"not writing through dangling symlink {quotedName target}"
          else
            let (note, stays) ← makeWay style target (there.isOk || link.isOk)
            if style.symbolic || style.links then
              if style.symbolic && !source.startsWith "/" && target.contains '/' then
                return ← complain c
                  s!"{shownName target}: can make relative symbolic links only in current directory"
              if stays && style.forced then perform (.removeFile target)
              match ← request (if style.symbolic then .makeLink source target
                else .link source target) with
              | none =>
                  if style.loud then
                    c.say s!"{quotedName source} -> {quotedName target}{note}\n"
                  return true
              | some e =>
                  let what := if style.symbolic then "symbolic" else "hard"
                  let toward := if style.symbolic then s!" to {quotedName source}" else ""
                  complain c s!"cannot create {what} link {quotedName target}{toward}: {e.text}"
            else
              if style.loud then
                c.say s!"{quotedName source} -> {quotedName target}{note}\n"
              match f.kind with
              | .link =>
                  if stays then perform (.removeFile target)
                  match ← ask (.readLink source) with
                  | .text text =>
                      match ← request (.makeLink text target) with
                      | none => return true
                      | some e =>
                          complain c
                            s!"cannot create symbolic link {quotedName target}: {e.text}"
                  | _ => complain c s!"cannot read symbolic link {quotedName source}"
              | .device | .pipe =>
                  if plain then copyData c style 0o666 source target (!stays)
                  else
                    complain c
                      s!"cannot create special file {quotedName target}: {Errno.notPermitted.text}"
              | _ => copyData c style f.permissions source target (!stays)

/-- Moves what a path names. -/
def movePath (c : Call) (style : CopyStyle) (source target : String) : Action Bool := do
  match ← facts (.facts source false) with
  | .error e => complain c s!"cannot stat {quotedName source}: {e.text}"
  | .ok f =>
      let there ← facts (.facts target false)
      if let .ok g := there then
        if f.number = g.number then
          return ← complain c s!"{quotedName source} and {quotedName target} are the same file"
        if f.kind = .link then
          if (← facts (.facts source true)).toOption.any (·.number = g.number) then
            return ← complain c s!"{quotedName source} and {quotedName target} are the same file"
        if f.kind = .directory && g.kind ≠ .directory then
          return ← complain c
            s!"cannot overwrite non-directory {quotedName target} with directory {quotedName source}"
        if f.kind ≠ .directory && g.kind = .directory then
          return ← complain c
            s!"cannot overwrite directory {quotedName target} with non-directory"
        if let some good ← mayReplace c style target f g then return good
      let (note, _) ← makeWay { style with removes := false } target there.isOk
      match ← request (.rename source target) with
      | none =>
          if style.loud then
            c.say s!"renamed {quotedName source} -> {quotedName target}{note}\n"
          return true
      | some e =>
          if e = .invalid && f.kind = .directory then
            complain c
              s!"cannot move {quotedName source} to a subdirectory of itself, {quotedName target}"
          else if e = .notEmpty then
            complain c s!"cannot overwrite {quotedName target}: {e.text}"
          else complain c s!"cannot move {quotedName source} to {quotedName target}: {e.text}"

/-- The options that `cp` and `mv` have in common. -/
def copyChoices : List Choice :=
  [.flag 'f' "force", .flag 'i' "interactive", .flag 'n' "no-clobber",
    (Choice.flag 't' "target-directory").valued, .flag 'T' "no-target-directory",
    .letter 'u', (Choice.word "update").maybeValued, .flag 'v' "verbose",
    .letter 'b', (Choice.word "backup").maybeValued, (Choice.flag 'S' "suffix").valued,
    .word "strip-trailing-slashes", .flag 'Z' "context"]

/-- What is done with files that are there already. -/
def replacingOf (a : Arguments) : Replacing :=
  let step (r : Replacing) (o : String × Option String) : Replacing :=
    match o with
    | ("i", _) => .ask
    | ("n", _) => .never
    | ("f", _) => if r = .ask then .always else r
    | ("u", _) => if r = .never then r else .older
    | ("update", some "all") => .always
    | ("update", some "none") => .never
    | ("update", _) => .older
    | _ => r
  a.options.foldl step .always

/-- The suffix of backups, if any are made. -/
def backupOf (a : Arguments) : Option String :=
  if a.has "b" || a.has "backup" || a.has "S" then some ((a.value? "S").getD "~") else none

/-- The sources and the destination that the operands name. -/
def readDestination (c : Call) (a : Arguments) : Action (List String × Destination) := do
  match a.operands, a.value? "t" with
  | [], _ => c.misuse 1 "missing file operand"
  | sources, some directory =>
      if a.has "T" then
        c.die 1 "cannot combine --target-directory (-t) and --no-target-directory (-T)"
      match ← facts (.facts directory true) with
      | .error e => c.die 1 s!"target directory {quotedName directory}: {e.text}"
      | .ok f =>
          if f.kind ≠ .directory then
            c.die 1 s!"target directory {quotedName directory}: {Errno.notDirectory.text}"
          return (sources, .directory directory)
  | [source], none =>
      c.misuse 1 s!"missing destination file operand after {quotedName source}"
  | operands, none =>
      let target := operands.getLastD ""
      let sources := operands.dropLast
      if a.has "T" then
        if 2 < operands.length then
          c.misuse 1 s!"extra operand {quotedName (operands.getD 2 target)}"
        return (sources, .name target)
      match ← facts (.facts target true) with
      | .ok f =>
          if f.kind = .directory then return (sources, .directory target)
          if 1 < sources.length then
            c.die 1 s!"target {quotedName target}: {Errno.notDirectory.text}"
          return (sources, .name target)
      | .error e =>
          if 1 < sources.length then c.die 1 s!"target {quotedName target}: {e.text}"
          if e = .notDirectory then
            c.die 1 s!"cannot stat {quotedName target}: {e.text}"
          return (sources, .name target)

/-- Does something with each source and its destination.  No name is written twice
in one call, and a file given twice is copied once. -/
def forSources (c : Call) (sources : List String) (destination : Destination)
    (f : String → String → Action Bool) : Action Nat := do
  match destination with
  | .name target => return codeOf (← forAll sources fun source ↦ f source target)
  | .directory path =>
      let mut good := true
      let mut done : List (String × Nat) := []
      for source in sources do
        let name := lastName source
        let name := if name = ".." then "." else name
        let target := inDirectory path name
        let known ← facts (.facts source false)
        match known.toOption, done.lookup target with
        | some f, some number =>
            if f.number = number then
              c.warn s!"warning: source file {quotedName source} specified more than once"
            else
              c.warn s!"will not overwrite just-created {quotedName target} with {quotedName source}"
              good := false
        | _, _ =>
            if !(← f source target) then good := false
            done := (target, known.toOption.elim 0 (·.number)) :: done
      return codeOf good

/-- The program `cp`. -/
def cpMain (c : Call) : Action Nat := do
  let a ← c.read
    (copyChoices ++
      [.flag 'r' "recursive", (Choice.letter 'R').meaning "r", .flag 'a' "archive",
        .letter 'd', .flag 'P' "no-dereference", .flag 'L' "dereference", .letter 'H', .letter 'p',
        (Choice.word "preserve").maybeValued, (Choice.word "no-preserve").valued, .flag 'l' "link",
        .flag 's' "symbolic-link", .word "remove-destination", .word "parents", .flag 'x' "one-file-system",
        .word "attributes-only", (Choice.word "reflink").maybeValued, (Choice.word "sparse").valued,
        .word "copy-contents"]) 1
  let archive := a.has "a"
  let recursive := a.has "r" || archive
  let keepsLinks :=
    match a.last? ["a", "d", "P", "L", "H"] with
    | some "L" | some "H" => false
    | some _ => true
    | none => recursive
  if a.last? ["i", "n", "f"] == some "n" then
    c.warn
      "warning: behavior of -n is non-portable and may change in future; use --update=none instead"
  let preserves := archive || a.has "p" ||
    (a.has "preserve" && ((a.value? "preserve").getD "mode").contains 'm')
  let style : CopyStyle :=
    ⟨recursive, keepsLinks, preserves, a.has "f", a.has "remove-destination", replacingOf a, backupOf a,
      a.has "v", a.has "l", a.has "s", false⟩
  let (sources, destination) ← readDestination c a
  forSources c sources destination fun source target ↦ do
    let target :=
      match a.has "parents", destination with
      | true, .directory path => inDirectory path source
      | _, _ => target
    if a.has "parents" then
      if !(← makeThrough c none false (directoryOf target)) then return false
    copyPath c style ⟨source, target, []⟩ depthLimit source target

/-- The program `mv`. -/
def mvMain (c : Call) : Action Nat := do
  let a ← c.read copyChoices 1
  let style : CopyStyle :=
    ⟨true, true, true, a.has "f", false, replacingOf a, backupOf a, a.has "v", false, false, true⟩
  let (sources, destination) ← readDestination c a
  let strip (path : String) : String :=
    if a.has "strip-trailing-slashes" then withoutSlashes path else path
  forSources c (sources.map strip) destination (movePath c style)

end PipeShell.Userland

import PipeShell.Userland.Making

/-!
# Removing files

The program `rm`.  A directory goes after all that is in it, and what cannot be
removed keeps the directories it stands in from being tried.
-/

namespace PipeShell.Userland

open PipeShell.Userland.Action

/-- When `rm` asks whether to go on. -/
inductive Asking where
  | never
  | once
  | always
  deriving DecidableEq, Repr

/-- How `rm` goes about its work. -/
structure RemoveStyle where
  forced : Bool
  recursive : Bool
  /-- Whether empty directories are removed. -/
  emptyDirectories : Bool
  loud : Bool
  asking : Asking
  deriving DecidableEq, Repr

/-- Whether the answer read under a descriptor is yes.  The answers that have been
read and not used are kept. -/
def readAnswer (unread : Bytes) : Nat → Action (Bool × Bytes)
  | 0 => return (false, [])
  | limit + 1 => do
      match unread.span (· != 10) with
      | (line, _ :: rest) =>
          return (line.head?.any fun b ↦ b == 0x79 || b == 0x59, rest)
      | (line, []) =>
          match ← ask (.read 0 4096) with
          | .data (b :: bytes) => readAnswer (line ++ b :: bytes) limit
          | _ => return (line.head?.any fun b ↦ b == 0x79 || b == 0x59, [])

/-- What a file is called in a question. -/
def kindName (f : Facts) : String :=
  match f.kind with
  | .regular => if f.size = 0 then "regular empty file" else "regular file"
  | .directory => "directory"
  | .link => "symbolic link"
  | .device => "character special file"
  | .pipe => "fifo"

/-- Asks a question on standard error. -/
def askWhether (c : Call) (unread : Bytes) (question : String) : Action (Bool × Bytes) := do
  tell 2 s!"{c.name}: {question}? "
  readAnswer unread 1000000

/-- What has become of a name. -/
inductive Removal where
  | removed
  | kept
  | failed
  deriving DecidableEq, Repr

/-- The worse of two outcomes, for the directory that both stand in. -/
def Removal.worse (a b : Removal) : Removal :=
  if a = .failed || b = .failed then .failed
  else if a = .kept || b = .kept then .kept
  else .removed

/-- The part of a question that says what is protected. -/
def protection (f : Facts) : String :=
  if f.kind ≠ .link && f.permissions &&& 0o200 = 0 then "write-protected " else ""

/-- Removes what a path names; `depth` bounds how far down. -/
def removePath (c : Call) (style : RemoveStyle) (unread : Bytes) :
    Nat → String → Action (Removal × Bytes)
  | depth, path => do
      let failed (unread : Bytes) (reason : String) : Action (Removal × Bytes) := do
        c.warn s!"cannot remove {quotedName path}: {reason}"
        return (.failed, unread)
      match ← facts (.facts path false) with
      | .error missing =>
          let e := (← request (.removeFile path)).getD missing
          if style.forced && (e = .noEntry || e = .notDirectory) then return (.removed, unread)
          else failed unread e.text
      | .ok f =>
          if f.kind ≠ .directory then
            let (yes, unread) ←
              if style.asking = .always then
                askWhether c unread s!"remove {protection f}{kindName f} {quotedName path}"
              else pure (true, unread)
            if !yes then return (.kept, unread)
            match ← request (.removeFile path) with
            | some e => failed unread e.text
            | none =>
                if style.loud then c.say s!"removed {quotedName path}\n"
                return (.removed, unread)
          else if !style.recursive && !style.emptyDirectories then
            failed unread Errno.isDirectory.text
          else
            let listing ← names (.list path)
            let isEmpty := listing.toOption.any (·.isEmpty)
            let goesIn := style.recursive && !isEmpty
            let (yes, unread) ←
              if style.asking = .always && goesIn then
                askWhether c unread s!"descend into {protection f}directory {quotedName path}"
              else pure (true, unread)
            if !yes then return (.kept, unread)
            let (below, unread) ←
              match goesIn, listing, depth with
              | true, .ok entries, depth + 1 => do
                  let mut state := (Removal.removed, unread)
                  for entry in entries do
                    let (outcome, unread) ←
                      removePath c style state.2 depth (inDirectory path entry)
                    state := (state.1.worse outcome, unread)
                  pure state
              | true, .error e, _ => failed unread e.text
              | _, _, _ => pure (.removed, unread)
            if below = .failed then return (.failed, unread)
            let (yes, unread) ←
              if style.asking = .always then
                askWhether c unread s!"remove {protection f}directory {quotedName path}"
              else pure (true, unread)
            if !yes then return (.kept, unread)
            match ← request (.removeDirectory path) with
            | some e =>
                if below = .kept then return (.kept, unread)
                failed unread e.text
            | none =>
                if style.loud then c.say s!"removed directory {quotedName path}\n"
                return (.removed, unread)

/-- Removes what is named by an operand, unless that is refused at once. -/
def removeOperand (c : Call) (style : RemoveStyle) (careful : Bool) (unread : Bytes)
    (path : String) : Action (Removal × Bytes) := do
  if style.recursive || style.emptyDirectories then
    if ← leadsToDirectory path false then
      if !style.recursive && !(← names (.list path)).toOption.any (·.isEmpty) then
        c.warn s!"cannot remove {quotedName path}: {Errno.notEmpty.text}"
        return (.failed, unread)
      if lastName path = "." || lastName path = ".." then
        c.warn s!"refusing to remove '.' or '..' directory: skipping {quotedName path}"
        return (.failed, unread)
      let found ← resolvePath .all false path
      if careful && found.toOption == some "/" then
        c.warn s!"it is dangerous to operate recursively on {quotedName path}"
        c.warn "use --no-preserve-root to override this failsafe"
        return (.failed, unread)
  removePath c style unread depthLimit path

/-- The program `rm`. -/
def rmMain (c : Call) : Action Nat := do
  let interactive := (Choice.word "interactive").maybeValued.among
    [["never", "no", "none"], ["once"], ["always", "yes"]]
  let root := (Choice.word "preserve-root").maybeValued.checked fun text ↦
    if text = "all" then none
    else some ⟨s!"unrecognized --preserve-root argument: {quotedName text}", some 1, false⟩
  let a ← c.read
    [.flag 'f' "force", .letter 'i', .letter 'I', .flag 'r' "recursive", (Choice.letter 'R').meaning "r",
      .flag 'd' "dir", .flag 'v' "verbose", interactive,
      .word "one-file-system", root, .word "no-preserve-root"] 1
  let step (asking : Asking) (o : String × Option String) : Asking :=
    match o with
    | ("f", _) => .never
    | ("i", _) => .always
    | ("I", _) => .once
    | ("interactive", some text) =>
        if text = "never" then .never
        else if text = "once" then .once
        else .always
    | ("interactive", none) => .always
    | _ => asking
  let asking := a.options.foldl step .never
  let patient (forced : Bool) (o : String × Option String) : Bool :=
    match o with
    | ("f", _) => true
    | ("i", _) | ("I", _) => false
    | ("interactive", value) => forced && value == some "never"
    | _ => forced
  let forced := a.options.foldl patient false
  let style : RemoveStyle := ⟨forced, a.has "r", a.has "d", a.has "v", asking⟩
  if a.operands.isEmpty then
    if forced then return 0
    c.missingOperand
  let careful := a.last? ["preserve-root", "no-preserve-root"] != some "no-preserve-root"
  let mut unread : Bytes := []
  if asking = .once && (style.recursive || 3 < a.operands.length) then
    let count := a.operands.length
    let arguments := if count = 1 then "argument" else "arguments"
    let how := if style.recursive then " recursively" else ""
    let (yes, rest) ← askWhether c [] s!"remove {count} {arguments}{how}"
    if !yes then return 0
    unread := rest
  let mut good := true
  for path in a.operands do
    let (outcome, rest) ← removeOperand c style careful unread path
    unread := rest
    if outcome = .failed then good := false
  return codeOf good

end PipeShell.Userland

import PipeShell.Userland.Options
import PipeShell.Userland.Characters

/-!
# Changes of permissions

A change is an octal number that replaces the permissions, or a row of clauses
that name whose permissions change, how, and which.  The program `chmod` applies
one to files.
-/

namespace PipeShell.Userland

open PipeShell.Userland.Action

/-- How a clause changes permissions. -/
inductive ModeSource where
  /-- By the permissions that it lists. -/
  | listed
  /-- By those that a file already grants someone. -/
  | existing
  /-- By running or entering too, where that makes sense. -/
  | listedAndRunning
  deriving DecidableEq, Repr

/-- A clause of a change. -/
structure ModeClause where
  sign : Char
  source : ModeSource
  /-- Whose permissions change; nobody, if that is left open. -/
  affected : Nat
  value : Nat
  mentioned : Nat
  deriving DecidableEq, Repr

namespace ModeClause

/-- All bits of permissions. -/
def allBits : Nat := 0o7777

/-- The bits of those that a letter names. -/
def whose? (c : Char) : Option Nat :=
  [('u', 0o4700), ('g', 0o2070), ('o', 0o1007), ('a', allBits)].lookup c

/-- The bits of a permission for everybody. -/
def bits? (c : Char) : Option Nat :=
  [('r', 0o444), ('w', 0o222), ('x', 0o111), ('X', 0), ('s', 0o6000), ('t', 0o1000)].lookup c

def isSign (c : Char) : Bool :=
  c == '+' || c == '-' || c == '='

/-- Bits without others. -/
def without (bits others : Nat) : Nat :=
  bits &&& (allBits ^^^ (others &&& allBits))

/-- The clause of a sign and what follows it. -/
def read (affected : Nat) (sign : Char) (text : List Char) : Option (ModeClause × List Char) :=
  let copied (bits : Nat) : ModeClause :=
    ⟨sign, .existing, affected, bits, if affected ≠ 0 then affected &&& bits else bits⟩
  match text with
  | 'u' :: rest => some (copied 0o700, rest)
  | 'g' :: rest => some (copied 0o070, rest)
  | 'o' :: rest => some (copied 0o007, rest)
  | _ =>
      let digits := text.takeWhile fun c ↦ '0' ≤ c && c ≤ '7'
      let rest := text.drop digits.length
      if !digits.isEmpty then
        let n := digits.foldl (fun n c ↦ n * 8 + (c.toNat - 48)) 0
        if affected ≠ 0 || allBits < n || !(rest.isEmpty || rest.head? == some ',') then none
        else some (⟨sign, .listed, allBits, n, allBits⟩, rest)
      else
        let letters := text.takeWhile fun c ↦ (bits? c).isSome
        let value := letters.foldl (fun n c ↦ n ||| (bits? c).getD 0) 0
        let source : ModeSource := if letters.contains 'X' then .listedAndRunning else .listed
        let mentioned := if affected ≠ 0 then affected &&& value else value
        some (⟨sign, source, affected, value, mentioned⟩, text.drop letters.length)

/-- Reads clauses; `affected` is whom the last one is about, and there is none of
them before the first sign. -/
def readAll : Nat → Option Nat → List Char → Option (List ModeClause)
  | 0, _, _ => none
  | limit + 1, affected, text =>
      match affected, text with
      | some _, [] => some []
      | some _, ',' :: rest => readAll limit none rest
      | some affected, sign :: rest =>
          if !isSign sign then none
          else do
            let (clause, rest) ← read affected sign rest
            return clause :: (← readAll limit (some affected) rest)
      | none, text =>
          let letters := text.takeWhile fun c ↦ (whose? c).isSome
          let affected := letters.foldl (fun n c ↦ n ||| (whose? c).getD 0) 0
          match text.drop letters.length with
          | sign :: rest => if isSign sign then readAll limit (some affected) (sign :: rest) else none
          | [] => none

/-- The clauses of a change. -/
def ofText (text : String) : Option (List ModeClause) :=
  let chars := text.toList
  if chars.head?.any fun c ↦ '0' ≤ c && c ≤ '7' then
    let n := chars.foldl (fun n c ↦ n * 8 + (c.toNat - 48)) 0
    if !(chars.all fun c ↦ '0' ≤ c && c ≤ '7') || allBits < n then none
    else
      let mentioned := if chars.length < 5 then (n &&& 0o7000) ||| 0o777 else allBits
      some [⟨'=', .listed, allBits, n, mentioned⟩]
  else readAll (2 * chars.length + 2) none chars

/-- Applies a clause; `mask` holds the bits that are left alone if nobody is
named. -/
def apply (directory : Bool) (mask : Nat) (old : Nat) (c : ModeClause) : Nat :=
  let omitted := if directory then without 0o6000 c.mentioned else 0
  let spread (bits : Nat) (all : Nat) : Nat := if bits &&& all ≠ 0 then all else 0
  let value :=
    match c.source with
    | .listed => c.value
    | .existing =>
        let v := c.value &&& old
        v ||| spread v 0o444 ||| spread v 0o222 ||| spread v 0o111
    | .listedAndRunning => if directory || old &&& 0o111 ≠ 0 then c.value ||| 0o111 else c.value
  let limited := value &&& (if c.affected ≠ 0 then c.affected else without allBits mask)
  let value := without limited omitted
  if c.sign == '+' then old ||| value
  else if c.sign == '-' then without old value
  else
    let kept := (if c.affected ≠ 0 then without allBits c.affected else 0) ||| omitted
    (old &&& kept) ||| value

/-- Applies all clauses in a row. -/
def applyAll (directory : Bool) (mask : Nat) (clauses : List ModeClause) (old : Nat) : Nat :=
  clauses.foldl (apply directory mask) old

end ModeClause

/-- The letters of permissions. -/
def permissionLetters (permissions : Nat) : String :=
  let letter (bit : Nat) (c : Char) : Char := if permissions &&& bit ≠ 0 then c else '-'
  let running (bit special : Nat) (c : Char) : Char :=
    match permissions &&& special != 0, permissions &&& bit != 0 with
    | true, true => c
    | true, false => c.toUpper
    | false, true => 'x'
    | false, false => '-'
  String.ofList
    [letter 0o400 'r', letter 0o200 'w', running 0o100 0o4000 's', letter 0o040 'r',
      letter 0o020 'w', running 0o010 0o2000 's', letter 0o004 'r', letter 0o002 'w',
      running 0o001 0o1000 't']

/-- Octal digits, at least four of them. -/
def fourOctals (n : Nat) : String :=
  let digits := String.ofList (Nat.toDigits 8 n)
  "".pushn '0' (4 - digits.length) ++ digits

/-- The mask of permissions that new files are not given. -/
def currentMask : Action Nat := do
  match ← number (.setMask 0) with
  | .ok mask =>
      perform (.setMask mask)
      return mask
  | .error _ => return 0

/-- What `chmod` says of its work. -/
inductive Telling where
  | quiet
  | changes
  | everything
  deriving DecidableEq, Repr

/-- What `chmod` does. -/
structure ModeWork where
  clauses : List ModeClause
  mask : Nat
  recursive : Bool
  /-- Whether complaints are left out. -/
  silent : Bool
  telling : Telling
  /-- Whether the change has been given as an option, so that it has to do all that
  it would do without a mask. -/
  dashed : Bool

/-- Changes the permissions of a file, and of what is in it; `depth` bounds how
far down. -/
def changeMode (c : Call) (w : ModeWork) (top : Bool) : Nat → String → Action Bool
  | depth, path => do
      match ← facts (.facts path true) with
      | .error e =>
          let isLink := (← facts (.facts path false)).toOption.any (·.kind = .link)
          if isLink && !top then return true
          if !w.silent then
            c.warn
              (if isLink && e = .noEntry then s!"cannot operate on dangling symlink {quotedName path}"
              else s!"cannot access {quotedName path}: {e.text}")
          if w.telling = .everything then
            c.say (if isLink then
              s!"neither symbolic link {quotedName path} nor referent has been changed\n"
              else s!"{quotedName path} could not be accessed\n")
          return false
      | .ok f =>
          if !top then
            if let .ok ⟨.link, _, _, _⟩ ← facts (.facts path false) then return true
          let isDirectory := f.kind = .directory
          let new := ModeClause.applyAll isDirectory w.mask w.clauses f.permissions
          let shown (n : Nat) : String := s!"{fourOctals n} ({permissionLetters n})"
          match ← request (.setPermissions path new) with
          | some e =>
              if !w.silent then
                c.warn s!"changing permissions of {quotedName path}: {e.text}"
              if w.telling = .everything then
                c.say
                  (s!"failed to change mode of {quotedName path} from {shown f.permissions}" ++
                    s!" to {shown new}\n")
              return false
          | none =>
              if new ≠ f.permissions && w.telling ≠ .quiet then
                c.say
                  s!"mode of {quotedName path} changed from {shown f.permissions} to {shown new}\n"
              if new = f.permissions && w.telling = .everything then
                c.say s!"mode of {quotedName path} retained as {shown new}\n"
              let unmasked := ModeClause.applyAll isDirectory 0 w.clauses f.permissions
              let mut good := true
              if w.dashed && ModeClause.without new unmasked ≠ 0 then
                c.warn
                  (s!"{shownName path}: new permissions are {permissionLetters new}, " ++
                    s!"not {permissionLetters unmasked}")
                good := false
              match isDirectory && w.recursive, depth with
              | true, depth + 1 =>
                  match ← names (.list path) with
                  | .ok entries =>
                      for entry in entries do
                        let below ← changeMode c w false depth (path ++ "/" ++ entry)
                        good := good && below
                      return good
                  | .error e =>
                      if !w.silent then c.warn s!"cannot read directory {quotedName path}: {e.text}"
                      return false
              | _, _ => return good

/-- The depth to which directories are gone into. -/
def depthLimit : Nat := 256

/-- Whether an argument that looks like options is a change of permissions. -/
def isDashedMode (argument : String) : Bool :=
  match argument.toList with
  | '-' :: c :: _ => "rwxXstugoa,+=01234567".contains c
  | _ => false

/-- The program `chmod`. -/
def chmodMain (c : Call) : Action Nat := do
  let front := c.args.takeWhile (· ≠ "--")
  let dashed := front.filter isDashedMode
  let args := (front.filter fun text ↦ !isDashedMode text) ++ c.args.drop front.length
  let a ← { c with args }.read
    [.flag 'R' "recursive", .flag 'c' "changes", .flag 'f' "silent", (Choice.word "quiet").meaning "f",
      .flag 'v' "verbose", (Choice.word "reference").valued, .word "preserve-root",
      .word "no-preserve-root"] 1
  let telling : Telling :=
    match a.last? ["c", "v"] with
    | some "c" => .changes
    | some _ => .everything
    | none => .quiet
  let mask ← currentMask
  let work (clauses : List ModeClause) (byOption : Bool) : ModeWork :=
    ⟨clauses, mask, a.has "R", a.has "f", telling, byOption⟩
  let clausesOf (text : String) : Action (List ModeClause) :=
    match ModeClause.ofText text with
    | some clauses => return clauses
    | none => c.misuse 1 s!"invalid mode: {quoted text}"
  let each (w : ModeWork) (paths : List String) : Action Nat := do
    let mut code := 0
    for path in paths do
      if !(← changeMode c w true depthLimit path) then code := 1
    return code
  match a.value? "reference", dashed, a.operands with
  | some reference, _, paths =>
      if paths.isEmpty then c.missingOperand
      match ← facts (.facts reference true) with
      | .ok f =>
          each (work [⟨'=', .listed, ModeClause.allBits, f.permissions, ModeClause.allBits⟩] false) paths
      | .error e => c.die 1 s!"failed to get attributes of {quotedName reference}: {e.text}"
  | none, [], [] => c.missingOperand
  | none, [], [mode] => c.misuse 1 s!"missing operand after {quoted mode}"
  | none, [], mode :: paths => do
      let clauses ← clausesOf mode
      each (work clauses false) paths
  | none, dashed, paths => do
      let mode := ",".intercalate dashed
      if paths.isEmpty then c.misuse 1 s!"missing operand after {quoted mode}"
      let clauses ← clausesOf mode
      each (work clauses true) paths

end PipeShell.Userland

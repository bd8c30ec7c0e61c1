import PipeShell.Userland.Format
import PipeShell.Userland.Making

/-!
# Facts about files

The program `stat`, with a format.  A percent sign and a letter stand for a fact, with flags,
a width and a precision between them.
-/

namespace PipeShell.Userland

open PipeShell.Userland.Action

/-- What a file is called by `stat`. -/
def statKind (f : Facts) : String :=
  match f.kind with
  | .regular => if f.size = 0 then "regular empty file" else "regular file"
  | .directory => "directory"
  | .link => "symbolic link"
  | .device => "character special file"
  | .pipe => "fifo"

/-- The bits that stand for a kind of file. -/
def kindBits : FileKind → Nat
  | .regular => 0o100000
  | .directory => 0o040000
  | .link => 0o120000
  | .device => 0o020000
  | .pipe => 0o010000

/-- A file whose facts are shown. -/
structure Inspected where
  path : String
  facts : Facts
  /-- Where it leads, if it is a symbolic link. -/
  target : Option String

/-- A fact. -/
inductive StatField where
  | text (text : Bytes)
  /-- A number, and the letter of the conversion that shows it. -/
  | number (letter : UInt8) (n : Nat)

/-- What a letter of a format stands for. -/
def Inspected.field? (i : Inspected) (letter : Char) : Option StatField :=
  let f := i.facts
  let text (t : String) : Option StatField := some (.text (encode t))
  match letter with
  | 'n' => text i.path
  | 'N' =>
      match i.target with
      | some target => text (quotedName i.path ++ " -> " ++ quotedName target)
      | none => text (quotedName i.path)
  | 's' => some (.number 0x64 f.size)
  | 'a' => some (.number 0x6F f.permissions)
  | 'A' =>
      let kind := match f.kind with
        | .regular => "-"
        | .directory => "d"
        | .link => "l"
        | .device => "c"
        | .pipe => "p"
      text (kind ++ permissionLetters f.permissions)
  | 'f' => some (.number 0x78 (kindBits f.kind + f.permissions))
  | 'F' => text (statKind f)
  | 'h' => some (.number 0x75 (if f.kind = .directory then 2 else 1))
  | 'i' => some (.number 0x75 f.number)
  | 'u' | 'g' => some (.number 0x75 0)
  | 'U' | 'G' => text "root"
  | 'B' => some (.number 0x75 512)
  | 'o' => some (.number 0x75 4096)
  | 't' | 'T' => some (.number 0x78 0)
  | _ => none

/-- Shows a fact as a conversion asks for. -/
def StatField.shown (conversion : Conversion) : StatField → Bytes
  | .text shown =>
      ({ conversion with flags := conversion.flags.filter (· == 0x2D) }.setting none none).string shown
  | .number letter n =>
      let allowed :=
        if letter == 0x64 then encode "-+ 0" else if letter == 0x75 then encode "-0" else encode "-#0"
      let flags := conversion.flags.filter allowed.contains
      ({ conversion with flags, letter }.setting none none).integer n

/-- What is written of a format, and what is said about it. -/
inductive StatPart where
  | text (text : Bytes)
  | warning (text : String)
  /-- The format is wrong; it is not gone on with. -/
  | fault (text : String)

/-- What a backslash and the text behind it stand for, and what follows them. -/
def statEscape (rest : Bytes) : List StatPart × Bytes :=
  let octal := (rest.take 3).takeWhile isOctalDigit
  match rest with
  | [] => ([.warning "warning: backslash at end of format", .text [0x5C]], [])
  | c :: more =>
      let hex := (more.take 2).takeWhile isHexDigit
      if !octal.isEmpty then ([.text [(valueOf 8 octal).toUInt8]], rest.drop octal.length)
      else if c == 0x78 && !hex.isEmpty then
        ([.text [(valueOf 16 hex).toUInt8]], more.drop hex.length)
      else
        match (encode "abefnrtv\"\\").zip [7, 8, 27, 12, 10, 13, 9, 11, 0x22, 0x5C] |>.lookup c with
        | some b => ([.text [b]], more)
        | none =>
            ([.warning s!"warning: unrecognized escape '\\{plainText [c]}'", .text [c]], more)

/-- The parts of a format; `escapes` says whether backslashes mean something, and `limit` bounds
the number of parts. -/
def Inspected.parts (i : Inspected) (escapes : Bool) : Nat → Bytes → List StatPart
  | 0, _ | _, [] => []
  | limit + 1, b :: rest =>
      if b == 0x25 then
        let (conversion, more) := Conversion.read "'-+ #0I" "" rest
        let before := rest.take (rest.length - more.length - 1)
        if conversion.letter == 0 || conversion.letter == 0x25 then
          if before.isEmpty || before == [0x25] || rest.isEmpty then
            .text [0x25] :: i.parts escapes limit more
          else
            let directive := 0x25 :: before ++ if conversion.letter == 0 then [] else [0x25]
            [.fault s!"{quotedName (nameOfBytes directive)}: invalid directive"]
        else
          match i.field? (Char.ofNat conversion.letter.toNat) with
          | some field => .text (field.shown conversion) :: i.parts escapes limit more
          | none => .text [0x3F] :: i.parts escapes limit more
      else if b == 0x5C && escapes then
        let (parts, more) := statEscape rest
        parts ++ i.parts escapes limit more
      else .text [b] :: i.parts escapes limit rest

/-- Writes the parts of a format. -/
def putParts (c : Call) (parts : List StatPart) : Action Unit := do
  for part in parts do
    match part with
    | .text text => c.put text
    | .warning text => c.warn text
    | .fault text => c.die 1 text

/-- The program `stat`, with a format. -/
def statMain (c : Call) : Action Nat := do
  let a ← c.read
    [(Choice.flag 'c' "format").valued, (Choice.word "printf").valued, .flag 'L' "dereference",
      .flag 't' "terse", .flag 'f' "file-system"] 1
  if a.operands.isEmpty then c.missingOperand
  let escapes := a.last? ["c", "printf"] == some "printf"
  let format := encode ((a.value? (if escapes then "printf" else "c")).getD "%n")
  return codeOf (← forAll a.operands fun path ↦ do
    let found ← if path = "-" then facts (.factsOf 0) else facts (.facts path (a.has "L"))
    match found with
    | .error e =>
        if a.has "f" then
          c.warn s!"cannot read file system information for {quotedName path}: {e.text}"
        else if path = "-" then c.warn s!"cannot stat standard input: {e.text}"
        else c.warn s!"cannot statx {quotedName path}: {e.text}"
        return false
    | .ok f =>
        let target ←
          if f.kind ≠ .link then pure none
          else
            match ← ask (.readLink path) with
            | .text target => pure (some target)
            | _ => pure none
        let i : Inspected := ⟨path, f, target⟩
        putParts c (i.parts escapes (format.length + 1) format)
        if !escapes then c.put [10]
        return true)

end PipeShell.Userland

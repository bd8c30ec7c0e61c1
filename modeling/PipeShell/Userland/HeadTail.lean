import PipeShell.Userland.Sizes

/-!
# The ends of files

The programs `head`, `tail` and `tac`.  A count may take the part from one end
or leave it out at the other; what `head` has read too far of a file it gives
back.
-/

namespace PipeShell.Userland

open PipeShell.Userland.Action

/-- What part of its input a program passes on. -/
structure Part where
  lines : Bool
  count : Nat
  /-- Whether the count is of what is left out at the other end. -/
  omits : Bool
  deriving DecidableEq, Repr

/-- The number of bytes that `head` reads at a time. -/
def headSize : Nat := 8192

/-- The size from which on a file is not read to its end to leave out what is
there. -/
def smallSize : Nat := 4096

/-- Copies at most so many bytes. -/
def headBytes (c : Call) (fd : Descriptor) : Nat → Nat → Action (Option Errno)
  | 0, _ => return none
  | fuel + 1, left => do
      if left = 0 then return none
      match ← ask (.read fd (min headSize left)) with
      | .data [] => return none
      | .data piece =>
          c.put piece
          headBytes c fd fuel (left - piece.length)
      | .failed e => return some e
      | _ => return none

/-- The first records of some bytes, how many of them are missing, and what
follows them. -/
def takeRecords (terminator : UInt8) (count : Nat) (data : Bytes) : Bytes × Nat × Bytes :=
  match count, data with
  | 0, data => ([], 0, data)
  | count, [] => ([], count, [])
  | count + 1, b :: rest =>
      let (taken, missing, beyond) :=
        takeRecords terminator (if b == terminator then count else count + 1) rest
      (b :: taken, missing, beyond)
termination_by data.length

/-- Copies at most so many records, and then gives back what was read too far. -/
def headRecords (c : Call) (terminator : UInt8) (fd : Descriptor) (count : Nat) :
    Action (Option Errno) := do
  if count = 0 then return none
  let pass (left : Nat) (piece : Bytes) : Action (Nat × Bool) := do
    let (taken, missing, beyond) := takeRecords terminator left piece
    c.put taken
    if missing = 0 && !beyond.isEmpty then
      if let .ok place ← number (.place fd) then perform (.seek fd (place - beyond.length))
    return (missing, missing = 0)
  let (_, e) ← forPieces fd headSize pass pieceLimit count
  return e

/-- What is left of some bytes without the last of them. -/
def withoutLast (terminator : UInt8) (p : Part) (data : Bytes) : Bytes :=
  if p.lines then
    let records := recordsOf terminator data
    (records.take (records.length - p.count)).flatten
  else data.take (data.length - p.count)

/-- Copies all but the end of the input. -/
def headOmitting (c : Call) (terminator : UInt8) (fd : Descriptor) (p : Part) :
    Action (Option Errno) := do
  let start ← number (.place fd)
  let (data, e) ← readAll fd
  let out := withoutLast terminator p data
  c.put out
  match start, ← facts (.factsOf fd) with
  | .ok start, .ok f =>
      if f.kind = .regular && smallSize < f.size then perform (.seek fd (start + out.length))
  | _, _ => pure ()
  return e

/-- The end of some bytes, or what follows their beginning. -/
def tailPart (terminator : UInt8) (p : Part) (data : Bytes) : Bytes :=
  match p.lines, p.omits with
  | true, true => ((recordsOf terminator data).drop (p.count - 1)).flatten
  | true, false =>
      let records := recordsOf terminator data
      (records.drop (records.length - p.count)).flatten
  | false, true => data.drop (p.count - 1)
  | false, false => data.drop (data.length - p.count)

/-- Copies a part of every operand; titles are shown where `titled` says so, and `asks`
says whether it is asked what an operand is before it is read.  Where `fatal` says so, the
first operand that cannot be read ends the program. -/
def copyParts (c : Call) (titled asks fatal : Bool) (copy : Descriptor → Action (Option Errno))
    (operands : List String) : Action Nat := do
  let mut code := 0
  let mut first := true
  for path in orInput operands do
    match ← openOperand path with
    | .error e =>
        c.warn s!"cannot open {quotedName path} for reading: {e.text}"
        code := 1
    | .ok fd =>
        let called := if path = "-" then "standard input" else path
        if titled then
          c.say ((if first then "" else "\n") ++ s!"==> {called} <==\n")
          first := false
        let failed : Option (String × Errno) ←
          match ← facts (.factsOf fd), asks with
          | .error e, true => pure (some ("cannot fstat", e))
          | _, _ => do pure ((← copy fd).map fun e ↦ ("error reading", e))
        if let some (what, e) := failed then
          c.warn s!"{what} {quotedName called}: {e.text}"
          if fatal && what == "error reading" then stop 1
          code := 1
        closeOperand path fd
  c.closeInput operands "-" code

/-- What an invalid count is called. -/
def invalidCount (lines : Bool) : String :=
  if lines then "invalid number of lines" else "invalid number of bytes"

/-- A count without the minus sign in front of it. -/
def unsigned (text : String) : String :=
  if text.startsWith "-" then String.ofList (text.toList.drop 1) else text

/-- The options that `head` and `tail` have in common. -/
def partChoices : List Choice :=
  let counted (lines : Bool) (o : Choice) : Choice :=
    o.valued.checked fun text ↦
      sizeFault? (invalidCount lines) countLetters 0 (wordModulus - 1) (unsigned text)
  [counted false (.flag 'c' "bytes"), counted true (.flag 'n' "lines"), .flag 'q' "quiet",
    (Choice.word "silent").meaning "q", .flag 'v' "verbose", .flag 'z' "zero-terminated"]

/-- Whether titles are shown. -/
def showsTitles (a : Arguments) : Bool :=
  match a.last? ["q", "v"] with
  | some "q" => false
  | some _ => true
  | none => 1 < a.operands.length

/-- The part that an option asks for; a sign in front asks for the other end. -/
def readPart (sign : Char) (key text : String) : Part :=
  ⟨key == "n", sizeOf countLetters (unsigned text), text.startsWith sign.toString⟩

/-- The part that all the options ask for; the last one counts. -/
def readPartOptions (sign : Char) (a : Arguments) : Part :=
  match a.options.reverse.find? fun (key, _) ↦ key == "n" || key == "c" with
  | some (key, value) => readPart sign key (value.getD "")
  | none => ⟨true, 10, false⟩

/-- A first argument like `-3` as the options that it stands for. -/
def expandCount (c : Call) (digits : Bytes) (letters : List Char) : Action (List String) := do
  let count := plainText digits
  let mut size := ["-n", count]
  let mut others := []
  for letter in letters do
    match letter with
    | 'c' => size := ["-c", count]
    | 'b' | 'k' | 'm' => size := ["-c", count ++ letter.toString]
    | 'l' => size := ["-n", size.getD 1 count]
    | 'q' => others := others ++ ["-q"]
    | 'v' => others := others ++ ["-v"]
    | 'z' => others := others ++ ["-z"]
    | _ => c.misuse 1 s!"invalid trailing option -- {letter}"
  return size ++ others

/-- The options of `head`. -/
def headChoices : List Choice :=
  partChoices ++ "0123456789".toList.map fun digit ↦
    (Choice.letter digit).refused (.misread s!"invalid trailing option -- {digit}")

/-- The program `head`. -/
def headMain (c : Call) : Action Nat := do
  let first := encode (c.args.headD "")
  let digits := (first.drop 1).takeWhile isDigit
  let args ←
    if first.head? == some 0x2D && !digits.isEmpty then do
      let expanded ← expandCount c digits ((c.args.headD "").toList.drop (digits.length + 1))
      pure (expanded ++ c.args.drop 1)
    else pure c.args
  let a ← { c with args }.read headChoices 1
  let part := readPartOptions '-' a
  let terminator : UInt8 := if a.has "z" then 0 else 10
  let copy (fd : Descriptor) : Action (Option Errno) :=
    if part.omits then headOmitting c terminator fd part
    else if part.lines then headRecords c terminator fd part.count
    else headBytes c fd (part.count + 1) part.count
  copyParts c (showsTitles a) part.omits false copy a.operands

/-- The options of `tail`. -/
def tailChoices : List Choice :=
  partChoices ++ "0123456789".toList.map fun digit ↦
    (Choice.letter digit).refused (.plain s!"option used in invalid context -- {digit}")

/-- The first argument of `tail` in the old style: a sign, digits, and what is
counted. -/
def oldTail? (args : List String) : Option (List String) :=
  match args with
  | [] => none
  | first :: rest =>
      let alone :=
        match rest with
        | [] => true
        | [path] => !path.startsWith "-" || path == "-"
        | "--" :: _ => rest.length ≤ 2
        | _ => false
      let chars := first.toList
      let digits := (chars.drop 1).takeWhile Char.isDigit
      let letters := chars.drop (digits.length + 1)
      let sign := chars.headD ' '
      let known := letters == [] || letters == ['b'] || letters == ['c'] || letters == ['l']
      if !alone || !(sign == '-' || sign == '+') || !known then none
      else if digits.isEmpty && (letters.isEmpty || sign == '-' && letters == ['c']) then none
      else
        let count := if digits.isEmpty then "10" else String.ofList digits
        let signed := sign.toString ++ count
        let option :=
          if letters == ['c'] then ["-c", signed]
          else if letters == ['b'] then ["-c", signed ++ "b"]
          else ["-n", signed]
        some (option ++ rest)

/-- The program `tail`. -/
def tailMain (c : Call) : Action Nat := do
  let args := (oldTail? c.args).getD c.args
  let a ← { c with args }.read tailChoices 1
  let part := readPartOptions '+' a
  if part.count = 0 && !part.omits then return 0
  let terminator : UInt8 := if a.has "z" then 0 else 10
  let copy (fd : Descriptor) : Action (Option Errno) := do
    let (data, e) ← readAll fd
    c.put (tailPart terminator part data)
    return e
  copyParts c (showsTitles a) true (!part.lines) copy a.operands

end PipeShell.Userland

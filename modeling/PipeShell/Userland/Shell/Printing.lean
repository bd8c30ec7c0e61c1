import PipeShell.Userland.Format
import PipeShell.Userland.Shell.State

/-!
# Writing

The commands `echo` and `printf` of the shell.  Both put bytes in the place of escapes:
`echo` in all its words, `printf` in its format and in arguments that ask for it.
-/

namespace PipeShell.Userland.Shell

open Running

/-- The options in front of the operands of a built-in command: letters, of which those
that a colon follows have a value. -/
def readOptions (letters : String) : Nat → List Bytes →
    Running (List (Char × Option Bytes) × List Bytes)
  | limit + 1, word :: rest => do
      match word with
      | [0x2D, 0x2D] => return ([], rest)
      | 0x2D :: c :: more =>
          let letter := Char.ofNat c.toNat
          if letter == ':' || !letters.contains letter then
            failWith (encode "Illegal option -" ++ [c])
          if ((letters.toList.dropWhile (· != letter)).drop 1).head? == some ':' then
            match more, rest with
            | [], [] => failWith (encode "No arg for -" ++ [c] ++ encode " option")
            | [], value :: rest =>
                let (found, rest) ← readOptions letters limit rest
                return ((letter, some value) :: found, rest)
            | _, _ =>
                let (found, rest) ← readOptions letters limit rest
                return ((letter, some more) :: found, rest)
          else
            let rest := if more.isEmpty then rest else (0x2D :: more) :: rest
            let (found, rest) ← readOptions letters limit rest
            return ((letter, none) :: found, rest)
      | _ => return ([], word :: rest)
  | _, args => return ([], args)

/-- The options in front of the operands of a built-in command. -/
def options (letters : String) (args : List Bytes) :
    Running (List (Char × Option Bytes) × List Bytes) :=
  readOptions letters (args.flatten.length + args.length + 1) args

/-- The operands of a built-in command that has no options. -/
def operands (args : List Bytes) : Running (List Bytes) := do
  return (← options "" args).2

/-! ## Escapes -/

/-- The byte that an escape stands for behind its backslash, and what follows it. -/
def readEscape (text : Bytes) : UInt8 × Bytes :=
  let letters : List (UInt8 × UInt8) :=
    [(0x5C, 0x5C), (0x61, 7), (0x62, 8), (0x65, 27), (0x66, 12), (0x6E, 10), (0x72, 13), (0x74, 9),
      (0x76, 11)]
  match text with
  | [] => (0x5C, [])
  | b :: rest =>
      if isOctalDigit b then
        let digits := (text.take 3).takeWhile isOctalDigit
        (UInt8.ofNat (valueOf 8 digits), text.drop digits.length)
      else
        match letters.lookup b with
        | some e => (e, rest)
        | none => (0x5C, text)

/-- A text with bytes in the place of its escapes, and whether one of them ends all
writing. -/
def unescaped : Nat → Bytes → Bytes × Bool
  | 0, text => (text, false)
  | limit + 1, text =>
      match text.span (· != 0x5C) with
      | (plain, []) => (plain, false)
      | (plain, _ :: 0x63 :: _) => (plain, true)
      | (plain, _ :: rest) =>
          let rest :=
            match rest with
            | 0x30 :: d :: _ => if isOctalDigit d then rest.drop 1 else rest
            | _ => rest
          let (b, rest) := readEscape rest
          let (more, stops) := unescaped limit rest
          (plain ++ b :: more, stops)

/-- A text with bytes in the place of its escapes. -/
def unescapedAll (text : Bytes) : Bytes × Bool :=
  unescaped (text.length + 1) text

/-- Writes words with blanks between them; `open_` says whether the line is left
open. -/
def echoWords (open_ : Bool) : List Bytes → Running Unit
  | [] => unless open_ do emit [10]
  | word :: rest => do
      let (text, stops) := unescapedAll word
      emit text
      unless stops do
        unless rest.isEmpty do emit [32]
        echoWords open_ rest

/-- The command `echo`. -/
def echo (args : List Bytes) : Running Nat := do
  let open_ := args.head? == some [0x2D, 0x6E]
  echoWords open_ (if open_ then args.drop 1 else args)
  return 0

/-! ## Formats -/

/-- A format being used: the arguments left, and whether one of them was wrong. -/
structure FormatUse where
  args : List Bytes
  wrong : Bool

namespace FormatUse

/-- Takes the next argument. -/
def next (u : FormatUse) : Option Bytes × FormatUse :=
  match u.args with
  | [] => (none, u)
  | a :: rest => (some a, { u with args := rest })

/-- Complains of a number that is not all of its argument. -/
def check (u : FormatUse) (argument rest : Bytes) (outOfRange : Bool) : Running FormatUse := do
  let complain (text : String) : Running FormatUse := do
    warn (argument ++ encode s!": {text}")
    return { u with wrong := true }
  if !rest.isEmpty then
    if rest.length = argument.length then complain "expected numeric value"
    else complain "not completely converted"
  else if outOfRange then complain Errno.outOfRange.text
  else return u

/-- The next argument as a whole number. -/
def integer (u : FormatUse) (signed : Bool) : Running (Int × FormatUse) := do
  match u.next with
  | (none, u) => return (0, u)
  | (some a, u) =>
      if a.head? == some 0x22 || a.head? == some 0x27 then return ((a.getD 1 0).toNat, u)
      let r := readInteger signed a
      return (r.value, ← u.check a r.rest r.outOfRange)

/-- The next argument as a number with a fraction. -/
def fraction (u : FormatUse) : Running (Fraction × FormatUse) := do
  match u.next with
  | (none, u) => return (.finite false 0 0, u)
  | (some a, u) =>
      if a.head? == some 0x22 || a.head? == some 0x27 then
        return (.ofNat .double (a.getD 1 0).toNat, u)
      match Fraction.read .double a with
      | some r => return (r.value, ← u.check a r.rest r.outOfRange)
      | none => return (.finite false 0 0, ← u.check a a false)

/-- The number that a `*` stands for. -/
def measure (u : FormatUse) (m : Measure) : Running (Option Int × FormatUse) := do
  if m ≠ .argument then return (none, u)
  let (n, u) ← u.integer true
  return (some n, u)

/-- Writes the next argument in the way of a conversion, and tells whether that ends
all writing. -/
def convert (u : FormatUse) (c : Conversion) (written : Bytes) : Running (FormatUse × Bool) := do
  let (width, u) ← u.measure c.width
  let (precision, u) ← u.measure c.precision
  let s := c.setting width precision
  if c.letter == 0x73 then
    let (a, u) := u.next
    emit (s.string (a.getD []))
    return (u, false)
  else if c.letter == 0x62 then
    let (a, u) := u.next
    let (text, stops) := unescapedAll (a.getD [])
    emit (s.string text)
    return (u, stops)
  else if c.letter == 0x63 then
    let (a, u) := u.next
    emit (s.pad [(a.getD []).headD 0])
    return (u, false)
  else if integerLetters.contains c.letter then
    let (n, u) ← u.integer (c.letter == 0x64 || c.letter == 0x69)
    emit (s.integer n)
    return (u, false)
  else if fractionLetters.contains c.letter then
    let (x, u) ← u.fraction
    emit (s.fraction .double x)
    return (u, false)
  else failWith (written ++ encode ": invalid directive")

/-- Goes through a format once, and tells whether that ends all writing. -/
def once (u : FormatUse) : Nat → Bytes → Running (FormatUse × Bool)
  | limit + 1, b :: rest => do
      if b == 0x5C then
        let (e, rest) := readEscape rest
        emit [e]
        once u limit rest
      else if b == 0x25 && rest.head? == some 0x25 then
        emit [b]
        once u limit (rest.drop 1)
      else if b == 0x25 then
        let (c, after) := Conversion.read "#-+ 0" "" rest
        if c.letter == 0 then fail "missing format character"
        let written := b :: rest.take (rest.length - after.length)
        let (u, stops) ← u.convert c written
        if stops then return (u, true)
        once u limit after
      else
        let plain := (b :: rest).takeWhile fun c ↦ c != 0x5C && c != 0x25
        emit plain
        once u limit ((b :: rest).drop plain.length)
  | _, _ => return (u, false)

/-- Goes through a format until no arguments are left. -/
def all (u : FormatUse) (format : Bytes) : Nat → Running FormatUse
  | 0 => return u
  | limit + 1 => do
      let (after, stops) ← u.once (format.length + 1) format
      if stops || after.args.isEmpty || after.args.length = u.args.length then return after
      after.all format limit

end FormatUse

/-- The command `printf`. -/
def printf (args : List Bytes) : Running Nat := do
  match ← operands args with
  | [] => fail "usage: printf format [arg ...]"
  | format :: args =>
      let u ← FormatUse.all ⟨args, false⟩ format (args.length + 1)
      return if u.wrong then 1 else 0

end PipeShell.Userland.Shell

import PipeShell.Userland.Options
import PipeShell.Userland.Format

/-!
# Escapes and formats

The programs `printf` and `echo`.  A format is used again as long as arguments
are left.  What is printed and what is complained of come in one row, as the
format is gone through.
-/

namespace PipeShell.Userland

/-- What a `printf` gives, in order. -/
inductive Print where
  | text (bytes : Bytes)
  | complaint (text : String)
  deriving DecidableEq, Repr

/-- A `printf` under way: what it has given, the latest first, and what it has
left to do. -/
structure Printing where
  given : List Print
  args : List String
  /-- Whether an argument has been taken. -/
  took : Bool
  failed : Bool
  /-- Whether the rest of the format is left out. -/
  stopped : Bool

namespace Printing

def emit (p : Printing) (bytes : Bytes) : Printing :=
  { p with given := .text bytes :: p.given }

def warn (p : Printing) (text : String) : Printing :=
  { p with given := .complaint text :: p.given }

/-- Complains of something that counts as a failure. -/
def fail (p : Printing) (text : String) : Printing :=
  { p.warn text with failed := true }

/-- Complains of something that keeps the rest from being printed. -/
def abort (p : Printing) (text : String) : Printing :=
  { p.fail text with stopped := true }

/-- Takes the next argument. -/
def next (p : Printing) : Option String × Printing :=
  match p.args with
  | [] => (none, p)
  | a :: rest => (some a, { p with args := rest, took := true })

end Printing

/-! ## Escapes -/

/-- What an escape stands for, and what follows it. -/
inductive Escape where
  | bytes (b : Bytes) (rest : Bytes)
  /-- No more is printed. -/
  | stop
  | wrong (complaint : String)

/-- The escapes of a single letter. -/
def letterEscape? (b : UInt8) : Option UInt8 :=
  [(0x22, 0x22), (0x5C, 0x5C), (0x61, 7), (0x62, 8), (0x65, 27), (0x66, 12), (0x6E, 10), (0x72, 13),
    (0x74, 9), (0x76, 11)].lookup b

/-- The byte of an octal number of at most three digits, and what follows it. -/
def octalEscape (text : Bytes) : Escape :=
  let digits := (text.take 3).takeWhile isOctalDigit
  .bytes [UInt8.ofNat (valueOf 8 digits)] (text.drop digits.length)

/-- The escape of a character by its number of so many hexadecimal digits; where
text is ASCII only, any other is shown by its escape. -/
def numberEscape (letter : UInt8) (count : Nat) (text : Bytes) : Escape :=
  let digits := (text.take count).takeWhile isHexDigit
  if digits.length < count then .wrong "missing hexadecimal number in escape"
  else
    let n := valueOf 16 digits
    let name := plainText [letter]
    let lower := plainText (digits.map toLower)
    if (n ≤ 0x9f && n ≠ 0x24 && n ≠ 0x40 && n ≠ 0x60) || (0xd800 ≤ n && n ≤ 0xdfff) then
      .wrong s!"invalid universal character name \\{name}{lower}"
    else if n < 128 then .bytes [UInt8.ofNat n] (text.drop count)
    else
      let shown := (digitsIn 16 n).map toUpper
      let short := n < 65536
      let width := if short then 4 else 8
      let zeros := List.replicate (width - shown.length) 48
      .bytes ([0x5C, if short then 0x75 else 0x55] ++ zeros ++ shown) (text.drop count)

/-- The escape behind a backslash in a format, or, with octal numbers that begin
with a zero, in an argument. -/
def formatEscape (zero : Bool) (text : Bytes) : Escape :=
  match text with
  | [] => .bytes [0x5C] []
  | b :: rest =>
      if b == 0x63 then .stop
      else if b == 0x78 then
        let digits := (rest.take 2).takeWhile isHexDigit
        if digits.isEmpty then .wrong "missing hexadecimal number in escape"
        else .bytes [UInt8.ofNat (valueOf 16 digits)] (rest.drop digits.length)
      else if isOctalDigit b then octalEscape (if zero && b == 48 then rest else text)
      else if b == 0x75 then numberEscape b 4 rest
      else if b == 0x55 then numberEscape b 8 rest
      else
        match letterEscape? b with
        | some e => .bytes [e] rest
        | none => .bytes [0x5C, b] rest

/-- The escape behind a backslash in the words of `echo`. -/
def echoEscape (text : Bytes) : Escape :=
  match text with
  | [] => .bytes [0x5C] []
  | b :: rest =>
      if b == 0x63 then .stop
      else if b == 0x22 then .bytes [0x5C, b] rest
      else if b == 0x78 then
        let digits := (rest.take 2).takeWhile isHexDigit
        if digits.isEmpty then .bytes [0x5C, b] rest
        else .bytes [UInt8.ofNat (valueOf 16 digits)] (rest.drop digits.length)
      else if b == 48 then octalEscape rest
      else if isOctalDigit b then octalEscape text
      else
        match letterEscape? b with
        | some e => .bytes [e] rest
        | none => .bytes [0x5C, b] rest

/-- Puts what escapes stand for in their place, until one of them stops that;
`limit` bounds the number of escapes. -/
def unescape (escape : Bytes → Escape) (limit : Nat) (text : Bytes) : Bytes × Option Escape :=
  match limit with
  | 0 => (text, none)
  | limit + 1 =>
      match text.span (· != 0x5C) with
      | (plain, []) => (plain, none)
      | (plain, _ :: rest) =>
          match escape rest with
          | .bytes b rest =>
              let (more, stop) := unescape escape limit rest
              (plain ++ b ++ more, stop)
          | other => (plain, some other)

/-- Puts what escapes stand for in their place. -/
def unescapeAll (escape : Bytes → Escape) (text : Bytes) : Bytes × Option Escape :=
  unescape escape (text.length + 1) text

/-! ## The program `printf` -/

namespace Printing

/-- Complains of an argument that is not all a number. -/
def checkNumber (p : Printing) (argument : String) (unread : Bool) (rest : Bytes)
    (outOfRange : Bool) : Printing :=
  if outOfRange then p.fail s!"{quoted argument}: {Errno.outOfRange.text}"
  else if rest.isEmpty then p
  else if unread then p.fail s!"{quoted argument}: expected a numeric value"
  else p.fail s!"{quoted argument}: value not completely converted"

/-- The number of a character constant: a quote and a character. -/
def characterConstant (p : Printing) (argument : String) : Option (Nat × Printing) :=
  match encode argument with
  | mark :: b :: rest =>
      if mark == 0x22 || mark == 0x27 then
        let text := plainText rest
        let p :=
          if rest.isEmpty then p
          else
            p.warn
              s!"warning: {text}: character(s) following character constant have been ignored"
        some (b.toNat, p)
      else none
  | _ => none

/-- An argument as a whole number. -/
def integerOf (p : Printing) (signed : Bool) (argument : String) : Int × Printing :=
  match p.characterConstant argument with
  | some (n, p) => (n, p)
  | none =>
      let text := encode argument
      let r := readInteger signed text
      (r.value, p.checkNumber argument (r.rest.length = text.length) r.rest r.outOfRange)

/-- An argument as a number with a fraction. -/
def fractionOf (p : Printing) (argument : String) : Fraction × Printing :=
  match p.characterConstant argument with
  | some (n, p) => (.ofNat .extended n, p)
  | none =>
      let text := encode argument
      match Fraction.read .extended text with
      | some r => (r.value, p.checkNumber argument false r.rest r.outOfRange)
      | none => (.finite false 0 0, p.checkNumber argument true text false)

/-- The letters that a conversion may have, by what stands in front of them. -/
def allowedLetters (c : Conversion) : Bytes :=
  let all := "aAcdeEfFgGiosuxX"
  let without (letters : String) (kept : Bytes) : Bytes := kept.filter (!(encode letters).contains ·)
  let has (flag : Char) : Bool := c.flags.contains flag.toNat.toUInt8
  let kept := encode all
  let kept := if has '\'' || has 'I' then without "aAceEosxX" kept else kept
  let kept := if has '#' then without "cdisu" kept else kept
  let kept := if has '0' then without "cs" kept else kept
  if c.precision = .absent then kept else without "c" kept

/-- The number that a `*` takes from the arguments. -/
def measure (p : Printing) (m : Measure) (what : String) (negative : Bool) :
    Option Int × Printing :=
  if m ≠ .argument then (none, p)
  else
    match p.next with
    | (none, p) => (some 0, p)
    | (some a, p) =>
        let (n, p) := p.integerOf true a
        if n < 0x80000000 && (negative || -0x80000000 ≤ n) then (some n, p)
        else (none, p.abort s!"invalid {what}: {quoted a}")

/-- Writes the next argument under a conversion; `written` is the conversion as
the format has it. -/
def convert (p : Printing) (c : Conversion) (written : Bytes) : Printing :=
  let (width, p) := p.measure c.width "field width" false
  if p.stopped then p
  else
    let (precision, p) := p.measure c.precision "precision" true
    if p.stopped then p
    else if !(allowedLetters c).contains c.letter then
      p.abort s!"{textOf written}: invalid conversion specification"
    else
      let s := c.setting width precision
      let (argument, p) := p.next
      let argument := argument.getD ""
      if c.letter == 0x73 then p.emit (s.string (encode argument))
      else if c.letter == 0x63 then p.emit (s.pad [(encode argument).headD 0])
      else if integerLetters.contains c.letter then
        let signed := c.letter == 0x64 || c.letter == 0x69
        let (n, p) := p.integerOf signed argument
        p.emit (s.integer n)
      else
        let (x, p) := p.fractionOf argument
        p.emit (s.fraction .extended x)
where
  /-- The text of bytes, which may have been cut inside of a character. -/
  textOf (bytes : Bytes) : String :=
    (Utf8.decode? bytes).getD (plainText bytes)

/-- Writes what an escape stands for. -/
def escaped (p : Printing) : Escape → Printing
  | .bytes b _ => p.emit b
  | .stop => { p with stopped := true }
  | .wrong complaint => p.abort complaint

/-- Goes through a format once; `limit` bounds its parts. -/
def once (p : Printing) (limit : Nat) (format : Bytes) : Printing :=
  match limit, format with
  | limit + 1, b :: rest =>
      if p.stopped then p
      else if b == 0x5C then
        match formatEscape false rest with
        | .bytes bytes rest => once (p.emit bytes) limit rest
        | other => p.escaped other
      else if b == 0x25 then
        match rest with
        | 0x25 :: rest => once (p.emit [0x25]) limit rest
        | 0x62 :: rest =>
            match p.next with
            | (none, p) => once p limit rest
            | (some a, p) =>
                let (bytes, stop) := unescapeAll (formatEscape true) (encode a)
                let p := p.emit bytes
                match stop with
                | none => once p limit rest
                | some other => p.escaped other
        | 0x71 :: rest =>
            match p.next with
            | (none, p) => once p limit rest
            | (some a, p) => once (p.emit (encode (shownName a))) limit rest
        | _ =>
            let (c, after) := Conversion.read "-+ #0'I" "lLhjtz" rest
            let written := 0x25 :: rest.take (rest.length - after.length)
            once (p.convert c written) limit after
      else
        let plain := format.takeWhile fun x ↦ x != 0x5C && x != 0x25
        once (p.emit plain) limit (format.drop plain.length)
  | _, _ => p

/-- Goes through a format until no arguments are left; `limit` bounds how
often. -/
def all (p : Printing) (turn : Printing → Printing) : Nat → Printing
  | 0 => p
  | limit + 1 =>
      let p := turn { p with took := false }
      if p.stopped || p.args.isEmpty || !p.took then p else p.all turn limit

end Printing

/-- What a format and its arguments give. -/
def printed (turn : Bytes → Printing → Printing) (format : Bytes) (args : List String) : Printing :=
  (Printing.mk [] args false false false).all (turn format) (args.length + 1)

/-- The text that is printed, without what is complained of. -/
def Print.bytes : Print → Bytes
  | .text b => b
  | .complaint _ => []

/-- Writes what a `printf` has given, in order; text that belongs together is
written at once. -/
def writePrints (c : Call) (text : Bytes) : List Print → Action Unit
  | [] => c.put text
  | .text b :: rest => writePrints c (text ++ b) rest
  | .complaint complaint :: rest => do
      c.put text
      c.warn complaint
      writePrints c [] rest

/-- The program `printf`. -/
def printfMain (c : Call) : Action Nat := do
  let words := if c.args.head? == some "--" then c.args.drop 1 else c.args
  match words with
  | [] => c.missingOperand
  | format :: args =>
      let p := printed (fun format p ↦ p.once (format.length + 1) format) (encode format) args
      let p :=
        match p.args with
        | first :: _ =>
            if p.stopped then p
            else p.warn s!"warning: ignoring excess arguments, starting with {quoted first}"
        | [] => p
      writePrints c [] p.given.reverse
      return if p.failed then 1 else 0

/-! ## The program `echo` -/

/-- The options of `echo`: only words made of the letters `n`, `e` and `E`
count. -/
def echoOptions (newline escapes : Bool) : List String → Bool × Bool × List String
  | [] => (newline, escapes, [])
  | word :: rest =>
      let letters := word.toList.drop 1
      if word.startsWith "-" && !letters.isEmpty
          && letters.all (fun c ↦ c == 'n' || c == 'e' || c == 'E') then
        let escapes := letters.foldl
          (fun e c ↦ if c == 'e' then true else if c == 'E' then false else e) escapes
        echoOptions (newline && !letters.contains 'n') escapes rest
      else (newline, escapes, word :: rest)

/-- The program `echo`. -/
def echoMain (c : Call) : Action Nat := do
  let (newline, escapes, words) := echoOptions true false c.args
  let text := encode (" ".intercalate words)
  let (text, stop) := if escapes then unescapeAll echoEscape text else (text, none)
  c.put (if newline && stop.isNone then text ++ [10] else text)
  return 0

end PipeShell.Userland

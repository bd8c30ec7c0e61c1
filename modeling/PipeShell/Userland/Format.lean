import PipeShell.Userland.Fraction

/-!
# Conversions

A conversion turns a value into text of a given width.  It is written behind a
percent sign: flags, a width, a precision and a letter, where a `*` takes a
number from the arguments.
-/

namespace PipeShell.Userland

/-- A number in a conversion: given there, or to be taken from the arguments. -/
inductive Measure where
  | absent
  | given (n : Nat)
  | argument
  deriving DecidableEq, Repr

/-- A conversion as it is written. -/
structure Conversion where
  flags : Bytes
  width : Measure
  precision : Measure
  /-- What stands between the precision and the letter. -/
  size : Bytes
  letter : UInt8
  deriving DecidableEq, Repr

/-- How a value is set: a conversion whose numbers are known. -/
structure Setting where
  left : Bool
  plus : Bool
  space : Bool
  alternate : Bool
  zeros : Bool
  width : Nat
  precision : Option Nat
  letter : UInt8
  deriving DecidableEq, Repr

namespace Conversion

/-- Reads a number or a `*`. -/
def readMeasure (text : Bytes) : Measure × Bytes :=
  match text with
  | 0x2A :: rest => (.argument, rest)
  | _ =>
      let digits := text.takeWhile isDigit
      (if digits.isEmpty then .absent else .given (valueOf 10 digits), text.drop digits.length)

/-- Reads a conversion, behind its percent sign, up to the letter; the letter is
0 if there is none. -/
def read (flags sizes : String) (text : Bytes) : Conversion × Bytes :=
  let flags := text.takeWhile (encode flags).contains
  let (width, rest) := readMeasure (text.drop flags.length)
  let (precision, rest) :=
    match rest with
    | 0x2E :: more =>
        match readMeasure more with
        | (.absent, rest) => (Measure.given 0, rest)
        | found => found
    | _ => (.absent, rest)
  let size := rest.takeWhile (encode sizes).contains
  let rest := rest.drop size.length
  (⟨flags, width, precision, size, rest.headD 0⟩, rest.drop 1)

/-- The conversion with its numbers; those taken from the arguments are given. -/
def setting (c : Conversion) (width precision : Option Int) : Setting :=
  let has (flag : Char) : Bool := c.flags.contains flag.toNat.toUInt8
  let width : Int :=
    match c.width with
    | .absent => 0
    | .given n => n
    | .argument => width.getD 0
  let precision : Option Nat :=
    match c.precision with
    | .absent => none
    | .given n => some n
    | .argument => precision.bind fun p ↦ if p < 0 then none else some p.toNat
  ⟨has '-' || width < 0, has '+', has ' ', has '#', has '0', width.natAbs, precision, c.letter⟩

end Conversion

namespace Setting

/-- Text of the setting's width. -/
def pad (s : Setting) (text : Bytes) : Bytes :=
  if s.left then padRight s.width text else padLeft s.width text

/-- Text cut to the precision and padded. -/
def string (s : Setting) (text : Bytes) : Bytes :=
  match s.precision with
  | some n => s.pad (text.take n)
  | none => s.pad text

/-- The sign of a number. -/
def sign (s : Setting) (negative : Bool) : Bytes :=
  if negative then [0x2D] else if s.plus then [0x2B] else if s.space then [32] else []

/-- Digits behind what leads them; zeros that fill the width stand between. -/
def filled (s : Setting) (zeros : Bool) (lead digits : Bytes) : Bytes :=
  if zeros && s.zeros && !s.left then
    lead ++ List.replicate (s.width - lead.length - digits.length) 48 ++ digits
  else s.pad (lead ++ digits)

/-- A whole number. -/
def integer (s : Setting) (value : Int) : Bytes :=
  let signed := s.letter == 0x64 || s.letter == 0x69
  let magnitude := if signed then value.natAbs else (value % (wordModulus : Int)).toNat
  let base :=
    if s.letter == 0x6F then 8 else if s.letter == 0x78 || s.letter == 0x58 then 16 else 10
  let digits := digitsIn base magnitude
  let digits := if s.letter == 0x58 then digits.map toUpper else digits
  let digits := if magnitude = 0 && s.precision = some 0 then [] else digits
  let digits := List.replicate (s.precision.getD 1 - digits.length) 48 ++ digits
  let digits :=
    if s.alternate && base = 8 && digits.head? != some 48 then 48 :: digits else digits
  let lead : Bytes :=
    if signed then s.sign (value < 0)
    else if s.alternate && base = 16 && magnitude ≠ 0 then [48, s.letter]
    else []
  s.filled s.precision.isNone lead digits

/-- A number with a fraction. -/
def fraction (s : Setting) (f : FloatFormat) (x : Fraction) : Bytes :=
  let (digits, zeros) := x.format f s.letter s.alternate s.precision
  let hex := (toLower s.letter == 0x61) && zeros
  let lead := s.sign x.isNegative
  if hex then s.filled true (lead ++ digits.take 2) (digits.drop 2)
  else s.filled zeros lead digits

end Setting

/-- Letters of conversions to whole numbers. -/
def integerLetters : Bytes :=
  encode "dioxXu"

/-- Letters of conversions to numbers with a fraction. -/
def fractionLetters : Bytes :=
  encode "aAeEfFgG"

/-! ## Whole numbers as arguments -/

/-- The whole number that a text begins with. -/
structure IntegerRead where
  value : Int
  rest : Bytes
  /-- Whether the number is too large for a machine word. -/
  outOfRange : Bool
  deriving DecidableEq, Repr

/-- Reads a whole number behind blanks and a sign: hexadecimal behind `0x`, octal
behind `0`, and else decimal.  One that does not fit is replaced by the nearest
that does. -/
def readInteger (signed : Bool) (text : Bytes) : IntegerRead :=
  let body := text.dropWhile isSpace
  let negative := body.head? == some 0x2D
  let digits := if negative || body.head? == some 0x2B then body.drop 1 else body
  let hex := (digits.drop 2).takeWhile isHexDigit
  let (base, taken, start) : Nat × Bytes × Bytes :=
    if digits.head? == some 48 && (digits.drop 1).head?.any (toLower · == 0x78) && !hex.isEmpty then
      (16, hex, digits.drop 2)
    else if digits.head? == some 48 then (8, digits.takeWhile isOctalDigit, digits)
    else (10, digits.takeWhile isDigit, digits)
  if taken.isEmpty then ⟨0, text, false⟩
  else
    let n := valueOf base taken
    let rest := start.drop taken.length
    if signed then
      if negative then
        if n ≤ halfModulus then ⟨-n, rest, false⟩ else ⟨-(halfModulus : Int), rest, true⟩
      else if n < halfModulus then ⟨n, rest, false⟩
      else ⟨(halfModulus : Int) - 1, rest, true⟩
    else if n < wordModulus then ⟨if negative then -n else n, rest, false⟩
    else ⟨(wordModulus : Int) - 1, rest, true⟩

end PipeShell.Userland

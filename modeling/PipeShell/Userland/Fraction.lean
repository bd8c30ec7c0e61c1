import PipeShell.Userland.Characters

/-!
# Numbers with a fraction

A number is held as a machine holds it: a mantissa of a limited number of binary
digits, and an exponent.  Reading rounds to the nearest such number, and
printing rounds its exact value to the nearest decimal; halves go to the even
one.
-/

namespace PipeShell.Userland

/-- How many digits the mantissas of a kind of numbers have, and between which
powers of two its numbers lie. -/
structure FloatFormat where
  digits : Nat
  least : Int
  greatest : Int
  deriving DecidableEq, Repr

/-- The format of most machine arithmetic. -/
def FloatFormat.double : FloatFormat :=
  ⟨53, -1074, 1024⟩

/-- The widest format of the machine. -/
def FloatFormat.extended : FloatFormat :=
  ⟨64, -16445, 16384⟩

/-- A number: `mantissa * 2 ^ exponent`, with a sign. -/
inductive Fraction where
  | finite (negative : Bool) (mantissa : Nat) (exponent : Int)
  | infinite (negative : Bool)
  | nan (negative : Bool)
  deriving DecidableEq, Repr

namespace Fraction

/-- The quotient of two numbers, rounded to the nearest whole one. -/
def roundedQuotient (a b : Nat) : Nat :=
  let q := a / b
  let r := a % b
  if 2 * r > b || (2 * r == b && q % 2 == 1) then q + 1 else q

/-- The nearest number to a quotient. -/
def ofQuotient (f : FloatFormat) (negative : Bool) (a b : Nat) : Fraction :=
  if a = 0 then .finite negative 0 0
  else
    let guess : Int := (a.log2 : Int) - (b.log2 : Int) - (f.digits - 1 : Nat)
    let scaled (e : Int) : Nat × Nat := if e < 0 then (a <<< (-e).toNat, b) else (a, b <<< e.toNat)
    let fits (e : Int) : Bool :=
      let (a, b) := scaled e
      b <<< (f.digits - 1) ≤ a
    let e := if fits guess then guess else guess - 1
    let e := max e f.least
    let (a, b) := scaled e
    let m := roundedQuotient a b
    let (m, e) := if m.log2 = f.digits then (m / 2, e + 1) else (m, e)
    if f.greatest < e + (m.log2 : Int) + 1 then .infinite negative else .finite negative m e

/-- A finite number's absolute value, as a quotient. -/
def quotient (m : Nat) (e : Int) : Nat × Nat :=
  if e < 0 then (m, 1 <<< (-e).toNat) else (m <<< e.toNat, 1)

def ofNat (f : FloatFormat) (n : Nat) : Fraction :=
  ofQuotient f false n 1

def isNegative : Fraction → Bool
  | .finite negative _ _ | .infinite negative | .nan negative => negative

/-- The signed numerator and the denominator of a number. -/
def signedQuotient : Fraction → Int × Nat
  | .finite negative m e =>
      let (a, b) := quotient m e
      (if negative then -Int.ofNat a else Int.ofNat a, b)
  | .infinite negative => (if negative then -1 else 1, 0)
  | .nan _ => (0, 0)

/-- The nearest number to a signed quotient. -/
def ofSigned (f : FloatFormat) (a : Int) (b : Nat) : Fraction :=
  ofQuotient f (a < 0) a.natAbs b

/-- The sum of two numbers. -/
def add (f : FloatFormat) (x y : Fraction) : Fraction :=
  match x, y with
  | .finite _ _ _, .finite _ _ _ =>
      let (a, b) := x.signedQuotient
      let (c, d) := y.signedQuotient
      ofSigned f (a * d + c * b) (b * d)
  | .finite _ _ _, y => y
  | x, _ => x

/-- The product of two numbers. -/
def mul (f : FloatFormat) (x y : Fraction) : Fraction :=
  match x, y with
  | .finite _ _ _, .finite _ _ _ =>
      let (a, b) := x.signedQuotient
      let (c, d) := y.signedQuotient
      match ofSigned f (a * c) (b * d) with
      | .finite _ m e => .finite (x.isNegative != y.isNegative) m e
      | other => other
  | .finite _ _ _, y => y
  | x, _ => x

/-- The order of numbers. -/
def lt (x y : Fraction) : Bool :=
  match x, y with
  | .nan _, _ | _, .nan _ => false
  | .infinite a, .infinite b => a && !b
  | .infinite a, _ => a
  | _, .infinite b => !b
  | _, _ =>
      let (a, b) := x.signedQuotient
      let (c, d) := y.signedQuotient
      a * d < c * b

/-! ## Reading -/

/-- What has been read at the beginning of a text. -/
structure Read where
  value : Fraction
  rest : Bytes
  /-- Whether the number is too large, or too small, for its format. -/
  outOfRange : Bool

/-- A number with an exponent, and what follows it. -/
def readExponent (marks : Bytes) (text : Bytes) : Int × Bytes :=
  match text with
  | mark :: rest =>
      if marks.contains mark then
        let (negative, digits) :=
          match rest with
          | 0x2D :: more => (true, more)
          | 0x2B :: more => (false, more)
          | _ => (false, rest)
        let ds := digits.takeWhile isDigit
        if ds.isEmpty then (0, text)
        else
          let n := Int.ofNat (min (valueOf 10 ds) 100000)
          (if negative then -n else n, digits.drop ds.length)
      else (0, text)
  | [] => (0, [])

/-- A number without its sign. -/
def readUnsigned (f : FloatFormat) (negative : Bool) (text : Bytes) : Option Read :=
  let lower := text.map toLower
  if lower.take 8 == encode "infinity" then some ⟨.infinite negative, text.drop 8, false⟩
  else if lower.take 3 == encode "inf" then some ⟨.infinite negative, text.drop 3, false⟩
  else if lower.take 3 == encode "nan" then some ⟨.nan negative, text.drop 3, false⟩
  else
    let hexStart := if lower.take 2 == [48, 0x78] then text.drop 2 else []
    let hexWhole := hexStart.takeWhile isHexDigit
    let hexPoint := hexStart.drop hexWhole.length
    let hexPart :=
      if hexPoint.head? == some 0x2E then (hexPoint.drop 1).takeWhile isHexDigit else []
    let finish (value : Fraction) (rest : Bytes) (nonzero : Bool) : Option Read :=
      let small :=
        match value with
        | .finite _ m _ => nonzero && m == 0
        | _ => true
      some ⟨value, rest, small⟩
    if !(hexWhole.isEmpty && hexPart.isEmpty) then
      let rest :=
        if hexPoint.head? == some 0x2E then hexPoint.drop (hexPart.length + 1) else hexPoint
      let (e, rest) := readExponent [0x70, 0x50] rest
      let m := valueOf 16 (hexWhole ++ hexPart)
      let e := e - 4 * hexPart.length
      let (a, b) := quotient m e
      finish (ofQuotient f negative a b) rest (m != 0)
    else
      let whole := text.takeWhile isDigit
      let point := text.drop whole.length
      let part := if point.head? == some 0x2E then (point.drop 1).takeWhile isDigit else []
      if whole.isEmpty && part.isEmpty then none
      else
        let rest := if point.head? == some 0x2E then point.drop (part.length + 1) else point
        let (e, rest) := readExponent [0x65, 0x45] rest
        let m := valueOf 10 (whole ++ part)
        let e := e - part.length
        let value :=
          if e < 0 then ofQuotient f negative m (Nat.pow 10 (-e).toNat)
          else ofQuotient f negative (m * Nat.pow 10 e.toNat) 1
        finish value rest (m != 0)

/-- The number that a text begins with, behind blanks and a sign. -/
def read (f : FloatFormat) (text : Bytes) : Option Read :=
  match text.dropWhile isSpace with
  | 0x2D :: rest => readUnsigned f true rest
  | 0x2B :: rest => readUnsigned f false rest
  | rest => readUnsigned f false rest

/-! ## Printing -/

/-- The digits of a number with so many behind the point. -/
def fixedDigits (m : Nat) (e : Int) (places : Nat) : Bytes × Bytes :=
  let (a, b) := quotient m e
  let digits := digitsIn 10 (roundedQuotient (a * Nat.pow 10 places) b)
  let digits := List.replicate (places + 1 - digits.length) 48 ++ digits
  (digits.take (digits.length - places), digits.drop (digits.length - places))

/-- The first digits of a number, so many of them, and the power of ten that the
first of these counts. -/
def leadingDigits (m : Nat) (e : Int) (count : Nat) : Bytes × Int :=
  if m = 0 then (List.replicate count 48, 0)
  else
    let (a, b) := quotient m e
    let power : Int :=
      if b ≤ a then ((digitsIn 10 (a / b)).length : Int) - 1
      else
        let up := (digitsIn 10 (b / a)).length
        if b ≤ a * Nat.pow 10 (up - 1) then 1 - (up : Int) else -(up : Int)
    let scale := (count : Int) - 1 - power
    let n :=
      if scale < 0 then roundedQuotient a (b * Nat.pow 10 (-scale).toNat)
      else roundedQuotient (a * Nat.pow 10 scale.toNat) b
    let digits := digitsIn 10 n
    if count < digits.length then (digits.take count, power + 1) else (digits, power)

/-- An exponent of at least so many digits. -/
def exponentText (mark : UInt8) (least : Nat) (e : Int) : Bytes :=
  let digits := digitsIn 10 e.natAbs
  mark :: (if e < 0 then 0x2D else 0x2B) ::
    (List.replicate (least - digits.length) 48 ++ digits)

/-- Whole digits and the digits behind the point. -/
def pointed (alternate : Bool) (whole part : Bytes) : Bytes :=
  if part.isEmpty && !alternate then whole else whole ++ 0x2E :: part

def dropZeros (digits : Bytes) : Bytes :=
  (digits.reverse.dropWhile (· == 48)).reverse

/-- A number with its power of ten. -/
def scientific (alternate : Bool) (mark : UInt8) (places : Nat) (m : Nat) (e : Int) : Bytes :=
  let (digits, power) := leadingDigits m e (places + 1)
  pointed alternate (digits.take 1) (digits.drop 1) ++ exponentText mark 2 power

/-- A number the shorter way, with so many digits that count. -/
def general (alternate : Bool) (mark : UInt8) (precision : Nat) (m : Nat) (e : Int) : Bytes :=
  let count := max precision 1
  let (digits, power) := leadingDigits m e count
  let trim (part : Bytes) : Bytes := if alternate then part else dropZeros part
  if power < -4 || (count : Int) ≤ power then
    pointed alternate (digits.take 1) (trim (digits.drop 1)) ++ exponentText mark 2 power
  else
    let (whole, part) := fixedDigits m e ((count : Int) - 1 - power).toNat
    pointed alternate whole (trim part)

/-- A number by its hexadecimal digits, of which the first holds the first four
binary ones. -/
def hexadecimal (f : FloatFormat) (alternate upper : Bool) (places : Option Nat) (m : Nat)
    (e : Int) : Bytes :=
  let lead := if f.digits % 4 = 0 then 4 else 1
  let shift := f.digits - (if m = 0 then f.digits else m.log2 + 1)
  let m := m <<< shift
  let e := if m = 0 then (0 : Int) else e - shift + (f.digits - lead : Nat)
  let width := (f.digits - lead) / 4
  let (m, width) :=
    match places with
    | some p => if p < width then (roundedQuotient m (Nat.pow 16 (width - p)), p) else (m, width)
    | none => (m, width)
  let (m, e) := if m >>> (4 * width) < 1 <<< lead then (m, e) else (m >>> lead, e + (lead : Int))
  let digits := digitsIn 16 m
  let digits := List.replicate (width + 1 - digits.length) 48 ++ digits
  let part := digits.drop 1
  let part :=
    match places with
    | some p => part ++ List.replicate (p - part.length) 48
    | none => dropZeros part
  let text := pointed alternate (digits.take 1) part ++ exponentText 0x70 1 e
  let text := encode "0x" ++ text
  if upper then text.map toUpper else text

/-- The text of a number under the conversion of a letter, without its sign;
and whether zeros may stand in front of it. -/
def format (f : FloatFormat) (letter : UInt8) (alternate : Bool) (precision : Option Nat)
    (x : Fraction) : Bytes × Bool :=
  let upper := isUpper letter
  let cased (text : String) : Bytes := (encode text).map (if upper then toUpper else id)
  match x with
  | .infinite _ => (cased "inf", false)
  | .nan _ => (cased "nan", false)
  | .finite _ m e =>
      let places := precision.getD 6
      let mark : UInt8 := if upper then 0x45 else 0x65
      let lower := toLower letter
      if lower == 0x66 then
        let (whole, part) := fixedDigits m e places
        (pointed alternate whole part, true)
      else if lower == 0x65 then (scientific alternate mark places m e, true)
      else if lower == 0x67 then (general alternate mark places m e, true)
      else (hexadecimal f alternate upper precision m e, true)

end Fraction

end PipeShell.Userland

import PipeShell.Userland.Fraction

/-!
# Keys of lines

A key is a part of a line and a way to compare it.  Lines are compared by their
keys in order, and each way to compare tells how two texts stand to each other.
-/

namespace PipeShell.Userland

/-- How the texts of keys are compared. -/
inductive KeyOrder where
  | bytes
  /-- By the decimal number in front. -/
  | numeric
  /-- By the number in front, which may have an exponent. -/
  | general
  /-- By the number in front and the power that a letter behind it stands for. -/
  | human
  | month
  /-- In no order that is known. -/
  | random
  | version
  deriving DecidableEq, Repr

/-- How a key is compared. -/
structure KeyStyle where
  /-- The ways to compare that have been asked for. -/
  orders : List KeyOrder
  reverse : Bool
  /-- Whether lower case letters count as upper case ones. -/
  folds : Bool
  /-- Whether only blanks, letters and digits count. -/
  dictionary : Bool
  /-- Whether only bytes that can be printed count. -/
  printable : Bool
  blanksAtStart : Bool
  blanksAtEnd : Bool
  deriving DecidableEq, Repr

/-- The style that compares bytes. -/
def KeyStyle.plain : KeyStyle :=
  ⟨[], false, false, false, false, false, false⟩

namespace KeyStyle

/-- The way to compare that counts. -/
def order (style : KeyStyle) : KeyOrder :=
  ([.numeric, .general, .human, .month, .random, .version].find? style.orders.contains).getD .bytes

/-- The letters of a style whose ways to compare do not go together. -/
def clash? (style : KeyStyle) : Option String :=
  let has (order : KeyOrder) : Bool := style.orders.contains order
  let rest := style.dictionary || style.printable || has .random || has .version
  let apart := [has .numeric, has .general, has .human, has .month, rest]
  if (apart.filter id).length ≤ 1 then none
  else
    let letters := [(style.dictionary, 'd'), (style.folds, 'f'), (has .general, 'g'),
      (has .human, 'h'), (style.printable, 'i'), (has .month, 'M'), (has .numeric, 'n'),
      (has .random, 'R'), (has .version, 'V')]
    some (String.ofList ((letters.filter (·.1)).map (·.2)))

end KeyStyle

/-- A key: from which field and byte of it, up to which field and byte. -/
structure SortKey where
  startField : Nat
  startByte : Nat
  /-- The field that the key ends in; without one it goes on to the end of the
  line. -/
  endField : Option Nat
  /-- The last byte of the key in that field; 0 is the field's last. -/
  endByte : Nat
  style : KeyStyle
  deriving DecidableEq, Repr

def isSeparator (b : UInt8) : Bool :=
  b == 10 || isBlank b

/-- What follows so many fields. -/
def dropFields (separator : Option UInt8) : Nat → Bytes → Bytes
  | 0, text => text
  | n + 1, text =>
      match separator with
      | some s => dropFields separator n ((text.dropWhile (· != s)).drop 1)
      | none =>
          dropFields separator n ((text.dropWhile isSeparator).dropWhile (!isSeparator ·))

namespace SortKey

/-- The key that is all of a line. -/
def line (style : KeyStyle) : SortKey :=
  ⟨0, 0, none, 0, style⟩

/-- The number of bytes up to the end of a key. -/
def endOf (k : SortKey) (separator : Option UInt8) (field : Nat) (text : Bytes) : Nat :=
  let rest :=
    if k.endByte = 0 then
      match separator with
      | some s => (dropFields separator field text).dropWhile (· != s)
      | none => dropFields separator (field + 1) text
    else
      let rest := dropFields separator field text
      let rest := if k.style.blanksAtEnd then rest.dropWhile isSeparator else rest
      rest.drop k.endByte
  text.length - rest.length

/-- The text of a key in a line. -/
def textOf (k : SortKey) (separator : Option UInt8) (text : Bytes) : Bytes :=
  let start := dropFields separator k.startField text
  let start := if k.style.blanksAtStart then start.dropWhile isSeparator else start
  let start := start.drop k.startByte
  match k.endField with
  | none => start
  | some field => start.take (k.endOf separator field text - (text.length - start.length))

end SortKey

/-! ## Comparing -/

/-- A decimal number in its shortest form. -/
structure PlainDecimal where
  negative : Bool
  whole : Bytes
  part : Bytes

namespace PlainDecimal

/-- The number that a text begins with, and what follows it. -/
def read (text : Bytes) : PlainDecimal × Bytes :=
  let text := text.dropWhile isSeparator
  let negative := text.head? == some 0x2D
  let text := if negative then text.drop 1 else text
  let whole := text.takeWhile isDigit
  let rest := text.drop whole.length
  let part := if rest.head? == some 0x2E then (rest.drop 1).takeWhile isDigit else []
  let rest := if rest.head? == some 0x2E then rest.drop (1 + part.length) else rest
  let whole := whole.dropWhile (· == 48)
  let part := (part.reverse.dropWhile (· == 48)).reverse
  (⟨negative && !(whole.isEmpty && part.isEmpty), whole, part⟩, rest)

def isZero (d : PlainDecimal) : Bool :=
  d.whole.isEmpty && d.part.isEmpty

/-- How two numbers stand to each other without their signs. -/
def compareSizes (a b : PlainDecimal) : Ordering :=
  (compare a.whole.length b.whole.length).then
    ((compareBytes a.whole b.whole).then (compareBytes a.part b.part))

/-- How two numbers stand to each other. -/
def comparison (a b : PlainDecimal) : Ordering :=
  match a.negative, b.negative with
  | true, false => .lt
  | false, true => .gt
  | false, false => compareSizes a b
  | true, true => compareSizes b a

end PlainDecimal

def compareNumeric (a b : Bytes) : Ordering :=
  (PlainDecimal.read a).1.comparison (PlainDecimal.read b).1

/-- The place of a text in the order of numbers: texts that are none come first,
then what is not a number. -/
def generalRank (text : Bytes) : Nat × Fraction :=
  match Fraction.read .extended text with
  | none => (0, .finite false 0 0)
  | some r =>
      match r.value with
      | .nan _ => (1, .finite false 0 0)
      | value => (2, value)

def compareGeneral (a b : Bytes) : Ordering :=
  let (i, x) := generalRank a
  let (j, y) := generalRank b
  (compare i j).then (if x.lt y then .lt else if y.lt x then .gt else .eq)

/-- The power that the letter behind a number stands for, with the number's
sign. -/
def humanPower (text : Bytes) : Int :=
  let (d, rest) := PlainDecimal.read text
  if d.isZero then 0
  else
    let powers : List (UInt8 × Int) :=
      [(0x6B, 1), (0x4B, 1), (0x4D, 2), (0x47, 3), (0x54, 4), (0x50, 5), (0x45, 6), (0x5A, 7),
        (0x59, 8), (0x52, 9), (0x51, 10)]
    let power := (rest.head?.bind fun c ↦ powers.lookup c).getD 0
    if d.negative then -power else power

def compareHuman (a b : Bytes) : Ordering :=
  let sign (text : Bytes) : Int :=
    let d := (PlainDecimal.read text).1
    if d.isZero then 0 else if d.negative then -1 else 1
  (compare (sign a) (sign b)).then
    ((compare (humanPower a) (humanPower b)).then (compareNumeric a b))

/-- The number of the month that a text begins with, and 0 if there is none. -/
def monthOf (text : Bytes) : Nat :=
  let name := plainText (((text.dropWhile isSeparator).take 3).map toUpper)
  match ["JAN", "FEB", "MAR", "APR", "MAY", "JUN", "JUL", "AUG", "SEP", "OCT", "NOV",
    "DEC"].idxOf? name with
  | some i => i + 1
  | none => 0

/-- The place of the next byte of a version outside of a number. -/
def versionRank (text : Bytes) : Int :=
  match text with
  | [] => -1
  | b :: _ =>
      if isDigit b then 0
      else if isAlpha b then b.toNat
      else if b == 0x7E then -2
      else b.toNat + 256

/-- Compares versions: numbers in them by their value and the rest byte by byte;
`limit` bounds the number of bytes. -/
def compareVersionParts (limit : Nat) (a b : Bytes) : Ordering :=
  match limit, a, b with
  | 0, _, _ | _, [], [] => .eq
  | limit + 1, a, b =>
      let isText (t : Bytes) : Bool := t.head?.any (!isDigit ·)
      if isText a || isText b then
        let i := versionRank a
        let j := versionRank b
        if i ≠ j then compare i j else compareVersionParts limit (a.drop 1) (b.drop 1)
      else
        let x := a.takeWhile isDigit
        let y := b.takeWhile isDigit
        (compare (valueOf 10 x) (valueOf 10 y)).then
          (compareVersionParts limit (a.drop x.length) (b.drop y.length))

/-- The length of a name without its endings, each a dot, a letter and more letters
or digits; `place` is the number of bytes passed. -/
def versionStem (place stem : Nat) : Nat → Bytes → Nat
  | 0, _ | _, [] => stem
  | limit + 1, _ :: rest =>
      let rec endings (place : Nat) : Nat → Bytes → Nat × Bytes
        | 0, text => (place, text)
        | limit + 1, text =>
            match text with
            | 0x2E :: c :: more =>
                if isAlpha c || c == 0x7E then
                  let word := more.takeWhile fun b ↦ isAlnum b || b == 0x7E
                  endings (place + 2 + word.length) limit (more.drop word.length)
                else (place, text)
            | _ => (place, text)
      let (after, text) := endings (place + 1) limit rest
      versionStem after (place + 1) limit text

def compareVersions (a b : Bytes) : Ordering :=
  let dots (t : Bytes) : Nat :=
    if t.isEmpty then 0
    else if t == [0x2E] then 1
    else if t == [0x2E, 0x2E] then 2
    else if t.head? == some 0x2E then 3
    else 4
  let i := dots a
  let j := dots b
  if i ≠ j then compare i j
  else
    let stem (t : Bytes) : Bytes := t.take (versionStem 0 0 (t.length + 1) t)
    let limit := a.length + b.length + 2
    (compareVersionParts limit (stem a) (stem b)).then (compareVersionParts limit a b)

/-- The bytes of a text that count, as they count. -/
def KeyStyle.counted (style : KeyStyle) (text : Bytes) : Bytes :=
  let text := if style.dictionary then text.filter fun b ↦ isBlank b || isAlnum b else text
  let text := if style.printable then text.filter isPrintable else text
  if style.folds then text.map toUpper else text

/-- How two texts stand to each other in a style. -/
def KeyStyle.comparison (style : KeyStyle) (a b : Bytes) : Ordering :=
  let a := style.counted a
  let b := style.counted b
  let result :=
    match style.order with
    | .bytes | .random => compareBytes a b
    | .numeric => compareNumeric a b
    | .general => compareGeneral a b
    | .human => compareHuman a b
    | .month => compare (monthOf a) (monthOf b)
    | .version => compareVersions a b
  if style.reverse then result.swap else result

/-- How two lines stand to each other under keys, the first of which that tells
them apart counts. -/
def compareKeys (separator : Option UInt8) (a b : Bytes) : List SortKey → Ordering
  | [] => .eq
  | k :: rest =>
      match k.style.comparison (k.textOf separator a) (k.textOf separator b) with
      | .eq => compareKeys separator a b rest
      | other => other

end PipeShell.Userland

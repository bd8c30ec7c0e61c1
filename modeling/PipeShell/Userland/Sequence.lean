import PipeShell.Userland.Format
import PipeShell.Userland.Options

/-!
# Rows of numbers

The program `seq`.  Whole numbers are counted exactly; other numbers are added up
as the machine does, and shown with as many digits as the first number and the
step have.
-/

namespace PipeShell.Userland

open PipeShell.Userland.Action

/-- An argument of `seq`: a number, how wide it is written, and how many digits it
has behind the point, if it is written in the plain way. -/
structure SequenceNumber where
  value : Fraction
  width : Int
  places : Option Nat

namespace SequenceNumber

/-- Reads a number. -/
def read? (text : String) : Option SequenceNumber := do
  let bytes := encode text
  let r ← Fraction.read .extended bytes
  if !r.rest.isEmpty then none
  let bytes := bytes.dropWhile fun b ↦ isSpace b || b == 0x2B
  let point := bytes.idxOf? 0x2E
  let usual : Option Nat := if point.isNone && !bytes.contains 0x70 then some 0 else none
  let finite := r.value matches .finite _ _ _
  if bytes.any (toLower · == 0x78) || !finite then return ⟨r.value, 0, usual⟩
  let exponentPlace := bytes.findIdx? fun b ↦ toLower b == 0x65
  let body := bytes.take (exponentPlace.getD bytes.length)
  let fraction :=
    match point with
    | some p => (body.drop (p + 1)).length
    | none => 0
  let pointed : Int :=
    match point with
    | none => 0
    | some p =>
        if fraction = 0 then -1
        else if p = 0 || !(bytes[p - 1]?.any isDigit) then 1
        else 0
  let width : Int := (body.length : Int) + pointed
  match exponentPlace with
  | none => return ⟨r.value, width, some fraction⟩
  | some p =>
      let e := (readInteger true (bytes.drop (p + 1))).value
      if e < 0 then
        let size := e.natAbs
        let wider : Int := if point.isNone || point = some (p - 1) then 1 else 0
        return ⟨r.value, width + wider + size, some (fraction + size)⟩
      else
        let size := e.toNat
        let places := fraction - min fraction size
        let narrower : Int := if point.isSome && places = 0 && fraction ≠ 0 then 1 else 0
        return ⟨r.value, width - narrower + ((size - min fraction size : Nat) : Int), some places⟩

end SequenceNumber

/-- A format with one conversion: what stands before it, the conversion, and what
stands behind it. -/
structure NumberFormat where
  before : Bytes
  setting : Setting
  after : Bytes

namespace NumberFormat

/-- A number in a format. -/
def render (f : NumberFormat) (x : Fraction) : Bytes :=
  f.before ++ f.setting.fraction .extended x ++ f.after

/-- The format of numbers with so many places, of at least some width. -/
def plain (width : Nat) (places : Nat) : NumberFormat :=
  ⟨[], ⟨false, false, false, false, true, width, some places, 0x66⟩, []⟩

/-- The format for numbers that are not written in the plain way. -/
def general : NumberFormat :=
  ⟨[], ⟨false, false, false, false, false, 0, none, 0x67⟩, []⟩

/-- The text up to a conversion, where two percent signs stand for one, and what
follows its percent sign. -/
def literal : Bytes → Bytes × Option Bytes
  | [] => ([], none)
  | 0x25 :: 0x25 :: rest =>
      let (text, found) := literal rest
      (0x25 :: text, found)
  | 0x25 :: rest => ([], some rest)
  | b :: rest =>
      let (text, found) := literal rest
      (b :: text, found)

/-- Reads a format. -/
def read (text : String) : Except String NumberFormat :=
  match literal (encode text) with
  | (_, none) => .error s!"format {quoted text} has no % directive"
  | (before, some rest) =>
      let (conversion, after) := Conversion.read "'-+#0 " "L" rest
      if conversion.letter == 0 then .error s!"format {quoted text} ends in %"
      else if !fractionLetters.contains conversion.letter then
        .error s!"format {quoted text} has unknown %{plainText [conversion.letter]} directive"
      else
        match literal after with
        | (after, none) => .ok ⟨before, conversion.setting none none, after⟩
        | (_, some _) => .error s!"format {quoted text} has too many % directives"

end NumberFormat

/-- The format that shows a row of numbers, all as wide as the widest if so
wished. -/
def usualFormat (equalWidth : Bool) (first step last : SequenceNumber) : NumberFormat :=
  match first.places, step.places, last.places with
  | some a, some b, some c =>
      let places := max a b
      if equalWidth then
        let point (p : Nat) (q : Nat) : Int := if p = 0 && q ≠ 0 then 1 else 0
        let firstWidth := first.width + ((places - a : Nat) : Int) + point a places
        let lastWidth := last.width + (places : Int) - (c : Int) + point c places - point places c
        .plain (max firstWidth lastWidth).toNat places
      else .plain 0 places
  | _, _, _ => .general

/-- The number of numbers written at a time. -/
def sequenceBlock : Nat := 256

/-- Writes numbers from the number `i` of the row on, as long as there are any. -/
def writeSequence (c : Call) (f : NumberFormat) (separator : Bytes) (first step last : Fraction) :
    Nat → Nat → Fraction → Bytes → Action Unit
  | 0, _, _, out => c.put out
  | fuel + 1, i, x, out => do
      let out := out ++ f.render x
      let next := first.add .extended ((Fraction.ofNat .extended i).mul .extended step)
      let beyond := if step.isNegative then next.lt last else last.lt next
      let finish : Action Unit := c.put (out ++ [10])
      let out := out ++ separator
      if beyond then
        let same :=
          match Fraction.read .extended (f.setting.fraction .extended next) with
          | some r => !(r.value.lt last) && !(last.lt r.value)
          | none => false
        if same && f.render next != f.render x then c.put (out ++ f.render next ++ [10])
        else finish
      else if i % sequenceBlock = 0 then do
        c.put out
        writeSequence c f separator first step last fuel (i + 1) next []
      else writeSequence c f separator first step last fuel (i + 1) next out

/-- Writes whole numbers. -/
def writeWhole (c : Call) (separator : Bytes) (step last : Nat) :
    Nat → Nat → Bytes → Action Unit
  | 0, _, out => c.put out
  | fuel + 1, n, out => do
      let out := out ++ digitsIn 10 n
      if last < n + step then c.put (out ++ [10])
      else if fuel % sequenceBlock = 0 then do
        c.put (out ++ separator)
        writeWhole c separator step last fuel (n + step) []
      else writeWhole c separator step last fuel (n + step) (out ++ separator)

/-- The options of `seq` and its operands.  What looks like a negative number is
no option. -/
def readSequenceArguments (c : Call) : Action Arguments := do
  let choices := [(Choice.flag 'f' "format").valued, (Choice.flag 's' "separator").valued,
    .flag 'w' "equal-width"]
  let isNumber (text : String) : Bool :=
    match text.toList with
    | '-' :: d :: _ => d == '.' || d.isDigit
    | _ => false
  let rec go : Nat → Arguments → List String → Except Complaint Arguments
    | 0, a, args => .ok { a with operands := args }
    | _, a, [] => .ok a
    | limit + 1, a, arg :: rest => do
        if isNumber arg || !arg.startsWith "-" || arg = "-" then
          return { a with operands := arg :: rest }
        else if arg = "--" then return { a with operands := rest }
        else if arg.startsWith "--" then
          let (o, rest) ← readWord choices (String.ofList (arg.toList.drop 2)) rest
          go limit { a with options := a.options ++ [o] } rest
        else
          let (options, rest) := readLetters choices a.options (arg.toList.drop 1) rest
          go limit { a with options } (← rest)
  match go (c.args.length + 1) ⟨[], [], []⟩ c.args with
  | .ok a => return a
  | .error complaint => c.reject 1 complaint

/-- The program `seq`. -/
def seqMain (c : Call) : Action Nat := do
  let a ← readSequenceArguments c
  let equalWidth := a.has "w"
  if a.operands.isEmpty then c.missingOperand
  if let some extra := a.operands[3]? then c.extraOperand extra
  let format ←
    match a.value? "f" with
    | none => pure none
    | some text =>
        match NumberFormat.read text with
        | .ok f => pure (some f)
        | .error fault => c.die 1 fault
  if format.isSome && equalWidth then
    c.misuse 1 "format string may not be specified when printing equal width strings"
  let separator := encode ((a.value? "s").getD "\n")
  let number (text : String) : Action SequenceNumber := do
    match SequenceNumber.read? text with
    | some n =>
        if n.value matches .nan _ then
          c.misuse 1 s!"invalid 'not-a-number' argument: {quoted text}"
        return n
    | none => c.misuse 1 s!"invalid floating point argument: {quoted text}"
  let texts :=
    match a.operands with
    | [last] => ("1", "1", last)
    | [first, last] => (first, "1", last)
    | first :: step :: last :: _ => (first, step, last)
    | [] => ("1", "1", "")
  let last ← if a.operands.length = 1 then number texts.2.2 else pure ⟨.finite false 0 0, 0, none⟩
  let first ← number texts.1
  let step ← if a.operands.length = 3 then number texts.2.1 else pure ⟨.ofNat .extended 1, 1, some 0⟩
  if step.value matches .finite _ 0 _ then
    c.misuse 1 s!"invalid Zero increment value: {quoted texts.2.1}"
  let last ← if a.operands.length = 1 then pure last else number texts.2.2
  match decimal? texts.1, decimal? texts.2.1, decimal? texts.2.2 with
  | some n, some d, some m =>
      if format.isNone && !equalWidth then
        if n ≤ m then writeWhole c separator d m (m - n + 1) n []
        return 0
  | _, _, _ => pure ()
  let f := format.getD (usualFormat equalWidth first step last)
  let none :=
    if step.value.isNegative then first.value.lt last.value else last.value.lt first.value
  if !none then
    writeSequence c f separator first.value step.value last.value pieceLimit 1 first.value []
  return 0

end PipeShell.Userland

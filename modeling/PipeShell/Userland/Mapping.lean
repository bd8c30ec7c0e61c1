import PipeShell.Userland.Options
import PipeShell.Userland.Characters

/-!
# Mapping bytes to bytes

The program `tr`.  A set is written as bytes, ranges, classes and repeated bytes;
its order says what its bytes are mapped to.
-/

namespace PipeShell.Userland

open PipeShell.Userland.Action

/-- A part of a set. -/
inductive SetPart where
  | byte (b : UInt8)
  | range (first last : UInt8)
  | class (name : String) (bytes : Bytes)
  | equivalence (b : UInt8)
  /-- A byte so many times; without a number, as often as it takes to make the set
  as long as the other one. -/
  | repeated (b : UInt8) (count : Option Nat)
  deriving DecidableEq, Repr

namespace SetPart

/-- The bytes of a part, where a repetition without a number has so many. -/
def bytes (fill : Nat) : SetPart → Bytes
  | .byte b | .equivalence b => [b]
  | .range a b => (List.range' a.toNat (b.toNat + 1 - a.toNat)).map UInt8.ofNat
  | .class _ bytes => bytes
  | .repeated b count => List.replicate (count.getD fill) b

def isOpen : SetPart → Bool
  | .repeated _ none => true
  | _ => false

/-- Whether a part is a class that has a class of other letters beside it. -/
def isCase : SetPart → Bool
  | .class name _ => name == "upper" || name == "lower"
  | _ => false

def isClass : SetPart → Bool
  | .class _ _ => true
  | _ => false

def isEquivalence : SetPart → Bool
  | .equivalence _ => true
  | _ => false

end SetPart

/-- The bytes of parts in a row. -/
def setBytes (fill : Nat) (parts : List SetPart) : Bytes :=
  parts.flatMap (SetPart.bytes fill)

/-! ## Reading -/

/-- A byte of a set as it is written, and whether a backslash took its meaning
away. -/
abbrev SetByte := UInt8 × Bool

/-- The bytes of a set with their escapes replaced, and what there is to be said of
them. -/
def readEscapes : Nat → Bytes → List SetByte × List String
  | 0, _ | _, [] => ([], [])
  | limit + 1, 0x5C :: rest =>
      match rest with
      | [] =>
          ([(0x5C, true)],
            ["warning: an unescaped backslash at end of string is not portable"])
      | b :: after =>
          let known : List (UInt8 × UInt8) :=
            [(0x5C, 0x5C), (0x61, 7), (0x62, 8), (0x66, 12), (0x6E, 10), (0x72, 13), (0x74, 9),
              (0x76, 11)]
          if isOctalDigit b then
            let digits := (rest.take 3).takeWhile isOctalDigit
            let n := valueOf 8 digits
            if n < 256 then
              let (more, said) := readEscapes limit (rest.drop digits.length)
              ((UInt8.ofNat n, true) :: more, said)
            else
              let two := digits.take 2
              let (more, said) := readEscapes limit (rest.drop 2)
              let name := plainText digits
              let start := plainText two
              let last := plainText (digits.drop 2)
              let warning :=
                s!"warning: the ambiguous octal escape \\{name} is being\n\t" ++
                  s!"interpreted as the 2-byte sequence \\0{start}, {last}"
              ((UInt8.ofNat (valueOf 8 two), true) :: more, warning :: said)
          else
            let (more, said) := readEscapes limit after
            (((known.lookup b).getD b, true) :: more, said)
  | limit + 1, b :: rest =>
      let (more, said) := readEscapes limit rest
      ((b, false) :: more, said)

/-- The place of a mark and a closing bracket. -/
def closingOf? (mark : UInt8) (place : Nat) : List SetByte → Option Nat
  | (a, false) :: (b, false) :: rest =>
      if a == mark && b == 0x5D then some place
      else closingOf? mark (place + 1) ((b, false) :: rest)
  | _ :: rest => closingOf? mark (place + 1) rest
  | [] => none

/-- Text of a set for a message. -/
def setText (bytes : List SetByte) : String :=
  String.join (bytes.map fun b ↦ if isPrintable b.1 then plainText [b.1] else "\\" ++ octalDigits b.1)

/-- A repeated byte, behind its opening bracket, and what follows it. -/
def readRepetition (text : List SetByte) : Except String (Option (SetPart × List SetByte)) :=
  match text with
  | (b, _) :: (0x2A, false) :: rest =>
      let count := rest.takeWhile fun c ↦ !c.2 && c.1 != 0x5D
      match rest.drop count.length with
      | (0x5D, false) :: after =>
          let digits := count.map (·.1)
          if digits.isEmpty then .ok (some (.repeated b none, after))
          else
            let octal := digits.head? == some 48
            if digits.all (if octal then isOctalDigit else isDigit) then
              let n := valueOf (if octal then 8 else 10) digits
              .ok (some (.repeated b (if n = 0 then none else some n), after))
            else .error s!"invalid repeat count {quoted (plainText digits)} in [c*n] construct"
      | _ => .ok none
  | _ => .ok none

/-- Whether a repetition's star, digits and bracket stand here. -/
def looksRepeated (text : List SetByte) : Bool :=
  match text with
  | (0x2A, false) :: rest =>
      match rest.dropWhile fun c ↦ isDigit c.1 with
      | (0x5D, false) :: _ => true
      | _ => false
  | _ => false

/-- A class, behind its opening bracket, and what follows it. -/
def readClass (text : List SetByte) : Except String (Option (SetPart × List SetByte)) :=
  match text with
  | (mark, false) :: rest =>
      if mark != 0x3A && mark != 0x3D then .ok none
      else
        match closingOf? mark 0 rest with
        | none => .ok none
        | some n =>
            let body := rest.take n
            let after := rest.drop (n + 2)
            let name := plainText (body.map (·.1))
            if mark == 0x3A then
              if body.isEmpty then .error "missing character class name '[::]'"
              else
                match classOf? name with
                | some p => .ok (some (.class name (allByteValues.filter p), after))
                | none =>
                    if looksRepeated rest then .ok none
                    else .error s!"invalid character class {quoted name}"
            else
              match body with
              | [] => .error "missing equivalence class character '[==]'"
              | [(b, _)] => .ok (some (.equivalence b, after))
              | _ =>
                  if looksRepeated rest then .ok none
                  else
                    .error s!"{setText body}: equivalence class operand must be a single character"
  | _ => .ok none

/-- Reads the parts of a set. -/
def readParts (limit : Nat) (text : List SetByte) : Except String (List SetPart) :=
  match limit, text with
  | limit + 1, (a, escaped) :: b :: c :: rest => do
      let bracketed ←
        if a == 0x5B && !escaped then do
          match ← readClass (b :: c :: rest) with
          | some found => pure (some found)
          | none => readRepetition (b :: c :: rest)
        else pure none
      match bracketed with
      | some (part, after) => return part :: (← readParts limit after)
      | none =>
          if b == (0x2D, false) then
            if c.1 < a then
              let range := setText [(a, false)] ++ "-" ++ setText [c]
              throw s!"range-endpoints of {quoted range} are in reverse collating sequence order"
            return .range a c.1 :: (← readParts limit rest)
          else return .byte a :: (← readParts limit (b :: c :: rest))
  | _, text => .ok (text.map fun b ↦ .byte b.1)

/-! ## Checking -/

/-- Whether every class of letters in the second set stands where one stands in the
first. -/
def casesAlign (first second : List SetPart) (fill : Nat) : Bool :=
  let starts (parts : List SetPart) : List (Nat × Bool) :=
    let step (state : Nat × List (Nat × Bool)) (p : SetPart) : Nat × List (Nat × Bool) :=
      let length := if p.isCase then 1 else (p.bytes fill).length
      (state.1 + length, (state.1, p.isCase) :: state.2)
    (parts.foldl step (0, [])).2
  let length (parts : List SetPart) : Nat :=
    parts.foldl (fun n p ↦ n + if p.isCase then 1 else (p.bytes fill).length) 0
  (starts second).all fun (place, isCase) ↦
    !isCase || length first < place || (starts first).contains (place, true)

/-- What is wrong with the sets of a mapping. -/
def mappingFault? (first second : List SetPart) (complement truncates : Bool)
    (domain : Bytes) (fill : Nat) : Option String :=
  let target := setBytes fill second
  if 1 < (second.filter SetPart.isOpen).length then
    some "only one [c*] repeat construct may appear in string2"
  else if second.any SetPart.isEquivalence then
    some "[=c=] expressions may not appear in string2 when translating"
  else if second.any fun p ↦ p.isClass && !p.isCase then
    some
      "when translating, the only character classes that may appear in\nstring2 are 'upper' and 'lower'"
  else if !complement && second.any SetPart.isClass && !casesAlign first second fill then
    some "misaligned [:upper:] and/or [:lower:] construct"
  else if target.length < domain.length && !truncates && target.isEmpty then
    some "when not truncating set1, string2 must be non-empty"
  else if target.length < domain.length && !truncates && second.getLast?.any SetPart.isClass then
    some
      "when translating with string1 longer than string2,\nthe latter string must not end with a character class"
  else if complement && first.any SetPart.isClass &&
      !((truncates → domain.length ≤ target.length) && target.all (· == target.headD 0)) then
    some
      "when translating with complemented character classes,\nstring2 must map all characters in the domain to one"
  else none

/-- What each byte becomes; of several places of a byte the last one counts. -/
def mapByte (pairs : List (UInt8 × UInt8)) (b : UInt8) : UInt8 :=
  (pairs.lookup b).getD b

/-- The pairs of a mapping, the last one first.  The last byte of a target that is
too short stands for all that are missing. -/
def mappingPairs (truncates : Bool) (domain target : Bytes) : List (UInt8 × UInt8) :=
  let missing := if truncates then 0 else domain.length - target.length
  (domain.zip (target ++ List.replicate missing (target.getLastD 0))).reverse

/-- What becomes of the input. -/
structure Mapping where
  deleted : Option Bytes
  /-- What every byte becomes, by its number. -/
  table : Option (Array UInt8)
  squeezed : Option Bytes

/-- Changes a piece of the input; the state is the last byte written. -/
def Mapping.apply (m : Mapping) (last : Option UInt8) (piece : Bytes) : Bytes × Option UInt8 :=
  let piece :=
    match m.deleted with
    | some set => piece.filter (!set.contains ·)
    | none => piece
  let piece :=
    match m.table with
    | some table => piece.map fun b ↦ table.getD b.toNat b
    | none => piece
  match m.squeezed with
  | none => (piece, last)
  | some set =>
      let step (state : Option UInt8 × Bytes) (b : UInt8) : Option UInt8 × Bytes :=
        if state.1 == some b && set.contains b then state else (some b, b :: state.2)
      let (last, out) := piece.foldl step (last, [])
      (out.reverse, last)

/-- Reads a set that was given as an operand. -/
def readSet (c : Call) (text : String) : Action (List SetPart) := do
  let bytes := encode text
  let (escaped, said) := readEscapes (bytes.length + 1) bytes
  for warning in said do c.warn warning
  match readParts (escaped.length + 1) escaped with
  | .ok parts => return parts
  | .error fault => c.die 1 fault

/-- The bytes that are not in a set. -/
def complementOf (set : Bytes) : Bytes :=
  allByteValues.filter (!set.contains ·)

/-- The program `tr`. -/
def trMain (c : Call) : Action Nat := do
  let a ← c.readInFront [.flag 'c' "complement", (Choice.letter 'C').meaning "c", .flag 'd' "delete",
    .flag 's' "squeeze-repeats", .flag 't' "truncate-set1"] 1
  let deletes := a.has "d"
  let squeezes := a.has "s"
  let least := if deletes == squeezes then 2 else 1
  let most := if deletes && !squeezes then 1 else 2
  if a.operands.isEmpty then c.missingOperand
  if a.operands.length < least then
    c.warn s!"missing operand after {quoted (a.operands.getLastD default)}"
    tell 2 (if squeezes then
      "Two strings must be given when both deleting and squeezing repeats.\n"
      else "Two strings must be given when translating.\n")
    c.seeHelp 1
  if let some extra := a.operands[most]? then
    c.warn s!"extra operand {quoted extra}"
    if a.operands.length = 2 then
      tell 2 "Only one string may be given when deleting without squeezing repeats.\n"
    c.seeHelp 1
  let first ← readSet c (a.operands.headD "")
  let second ←
    match a.operands[1]? with
    | some text => do pure (some (← readSet c text))
    | none => pure none
  if first.any SetPart.isOpen then
    c.die 1 "the [c*] repeat construct may not appear in string1"
  let source := setBytes 0 first
  let domain := if a.has "c" then complementOf source else source
  let run (m : Mapping) : Action Nat := do
    let pass (last : Option UInt8) (piece : Bytes) : Action (Option UInt8 × Bool) := do
      let (out, last) := m.apply last piece
      c.put out
      return (last, false)
    let (_, e) ← forPieces 0 8192 pass pieceLimit none
    if let some e := e then c.die 1 s!"read error: {e.text}"
    return 0
  match second with
  | none => run ⟨if deletes then some domain else none, none, if deletes then none else some domain⟩
  | some second =>
      let fill := domain.length - (setBytes 0 second).length
      if deletes then
        if second.any SetPart.isOpen then
          c.die 1 "the [c*] construct may appear in string2 only when translating"
        run ⟨some domain, none, some (setBytes 0 second)⟩
      else
        if let some fault := mappingFault? first second (a.has "c") (a.has "t") domain fill then
          c.die 1 fault
        let target := setBytes fill second
        let pairs := mappingPairs (a.has "t") domain target
        let table := (allByteValues.map (mapByte pairs)).toArray
        run ⟨none, some table, if squeezes then some target else none⟩

end PipeShell.Userland

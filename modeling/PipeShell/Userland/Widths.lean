import PipeShell.Userland.Characters
import PipeShell.Userland.Sizes

/-!
# The width of lines

The programs `fold`, `expand` and `unexpand`.  A tab reaches to the next tab
stop, a backspace goes one column back.
-/

namespace PipeShell.Userland

open PipeShell.Userland.Action

/-! ## Folding -/

/-- How lines are folded. -/
structure Fold where
  width : Nat
  bytes : Bool
  atBlanks : Bool
  deriving DecidableEq, Repr

namespace Fold

/-- The column behind a byte. -/
def after (f : Fold) (column : Nat) (b : UInt8) : Nat :=
  if f.bytes then column + 1
  else if b == 8 then column - 1
  else if b == 13 then 0
  else if b == 9 then column + 8 - column % 8
  else column + 1

/-- A line under way, the last byte first, and its width. -/
structure State where
  line : Bytes
  column : Nat

/-- The line up to its last blank, the last byte first, and what follows it. -/
def splitAtBlank (line : Bytes) : Option (Bytes × Bytes) :=
  let beyond := line.takeWhile (!isBlank ·)
  match line.drop beyond.length with
  | [] => none
  | kept => some (kept, beyond)

/-- Adds a byte to a line; what is written, each line broken off first, is told.
`fuel` bounds how often the line is broken for it. -/
def add (f : Fold) (b : UInt8) : Nat → State → Bytes × State
  | 0, s => ([], s)
  | fuel + 1, s =>
      if b == 10 then ((b :: s.line).reverse, ⟨[], 0⟩)
      else
        let column := f.after s.column b
        if column ≤ f.width then ([], ⟨b :: s.line, column⟩)
        else
          match if f.atBlanks then splitAtBlank s.line else none with
          | some (kept, beyond) =>
              let column := beyond.reverse.foldl f.after 0
              let (out, after) := f.add b fuel ⟨beyond, column⟩
              ((10 :: kept).reverse ++ out, after)
          | none =>
              if s.line.isEmpty then ([], ⟨[b], column⟩)
              else
                let (out, after) := f.add b fuel ⟨[], 0⟩
                ((10 :: s.line).reverse ++ out, after)

end Fold

/-- The options of `fold`. -/
def foldChoices : List Choice :=
  let width := (Choice.flag 'w' "width").valued.checked
    (sizeFault? "invalid number of columns" "" 1 (wordModulus - 10))
  [.flag 'b' "bytes", .flag 's' "spaces"] ++ width.withDigits

/-- The program `fold`. -/
def foldMain (c : Call) : Action Nat := do
  let a ← c.read foldChoices 1
  let width := ((a.value? "w").map (sizeOf "")).getD 80
  let f : Fold := ⟨width, a.has "b", a.has "s"⟩
  let pass (s : Fold.State) (piece : Bytes) : Action (Fold.State × Bool) := do
    let step (state : List Bytes × Fold.State) (b : UInt8) : List Bytes × Fold.State :=
      let (out, s) := f.add b (state.2.line.length + 2) state.2
      (out :: state.1, s)
    let (out, s) := piece.foldl step ([], s)
    c.put out.reverse.flatten
    return (s, false)
  let mut code := 0
  for path in orInput a.operands do
    match ← openOperand path with
    | .error e =>
        c.warn s!"{shownName path}: {e.text}"
        code := 1
    | .ok fd =>
        let (s, e) ← forPieces fd pieceSize pass pieceLimit ⟨[], 0⟩
        c.put s.line.reverse
        if let some e := e then
          c.warn s!"{shownName path}: {e.text}"
          code := 1
        closeOperand path fd
  c.closeInput a.operands "-" code

/-! ## Tab stops -/

/-- Where tabs reach to: the stops of a list, and then every so many columns. -/
structure TabStops where
  list : List Nat
  /-- How far apart the stops behind the list are. -/
  apart : Nat
  /-- How far apart they are if they count from the last stop of the list. -/
  beyond : Nat
  deriving DecidableEq, Repr

namespace TabStops

/-- The first stop behind a column. -/
def next? (t : TabStops) (column : Nat) : Option Nat :=
  match t.list with
  | [] =>
      let n := if t.apart ≠ 0 then t.apart else if t.beyond ≠ 0 then t.beyond else 8
      some (column + n - column % n)
  | [n] =>
      if t.apart = 0 && t.beyond = 0 then some (column + n - column % n) else behind [n]
  | list => behind list
where
  /-- The first stop behind the column where there is a list. -/
  behind (list : List Nat) : Option Nat :=
    match list.find? (column < ·) with
    | some stop => some stop
    | none =>
        if t.apart ≠ 0 then some (column + t.apart - column % t.apart)
        else if t.beyond ≠ 0 then
          some (column + t.beyond - (column - list.getLastD 0) % t.beyond)
        else none

/-- What is wrong with stops that have been read. -/
def fault? (t : TabStops) : Option String :=
  let rec disorder (least : Nat) : List Nat → Option String
    | [] => none
    | n :: rest =>
        if n = 0 then some "tab size cannot be 0"
        else if n ≤ least then some "tab sizes must be ascending"
        else disorder n rest
  match disorder 0 t.list with
  | some text => some text
  | none =>
      if t.apart ≠ 0 && t.beyond ≠ 0 then some "'/' specifier is mutually exclusive with '+'"
      else none

/-- What stands in front of a number in a list of stops. -/
inductive Mark where
  | none
  | slash
  | plus
  deriving DecidableEq, Repr

/-- What has been read of a list of stops. -/
structure Reading where
  stops : TabStops
  mark : Mark
  /-- The digits of the number that is read. -/
  digits : Bytes
  /-- Whether the digits that follow belong to a number that is too large. -/
  skipping : Bool
  /-- What is wrong, the last first. -/
  faults : List String

namespace Reading

def fault (r : Reading) (text : String) : Reading :=
  { r with faults := text :: r.faults }

/-- Takes the number that has been read; the answer says whether the list may go on. -/
def takeNumber (r : Reading) : Reading × Bool :=
  let n := valueOf 10 r.digits
  let t := r.stops
  let taken : Reading := { r with digits := [] }
  if r.digits.isEmpty then (r, true)
  else
    match r.mark with
    | .none => ({ taken with stops := { t with list := t.list ++ [n] } }, true)
    | .slash =>
        let good := t.apart == 0
        let taken := { taken with stops := { t with apart := n } }
        (if good then taken else taken.fault "'/' specifier only allowed with the last value", good)
    | .plus =>
        let good := t.beyond == 0
        let taken := { taken with stops := { t with beyond := n } }
        (if good then taken else taken.fault "'+' specifier only allowed with the last value", good)

/-- Reads a list of stops. -/
def list (r : Reading) : Bytes → Reading
  | [] => if r.faults.isEmpty then r.takeNumber.1 else r
  | b :: rest =>
      if isDigit b then
        let digits := r.digits ++ [b]
        if r.skipping then r.list rest
        else if wordModulus ≤ valueOf 10 digits then
          let all := digits ++ rest.takeWhile isDigit
          let r := r.fault s!"tab stop is too large {quoted (plainText all)}"
          { r with skipping := true }.list rest
        else { r with digits }.list rest
      else
        let r := { r with skipping := false }
        if b == 0x2C || isBlank b then
          match r.takeNumber with
          | (r, true) => r.list rest
          | (r, false) => r
        else if b == 0x2F || b == 0x2B then
          let place := quoted (plainText (b :: rest))
          let misplaced := s!"{quoted (plainText [b])} specifier not at start of number: {place}"
          let r := if r.digits.isEmpty then r else r.fault misplaced
          { r with mark := if b == 0x2F then .slash else .plus }.list rest
        else r.fault s!"tab size contains invalid character(s): {quoted (plainText (b :: rest))}"

end Reading

/-- Adds a list of stops to those that have been read before, or tells what is wrong. -/
def add (t : TabStops) (text : String) : Except (List String) TabStops :=
  let r := (Reading.mk t .none [] false []).list (encode text)
  if r.faults.isEmpty then .ok r.stops else .error r.faults.reverse

end TabStops

/-- The blanks of a line put in the place of its tabs. -/
def expandLine (t : TabStops) (initialOnly : Bool) (line : Bytes) : Bytes :=
  let step (state : Nat × Bool × List Bytes) (b : UInt8) : Nat × Bool × List Bytes :=
    let (column, converting, out) := state
    if !converting then (column, converting, [b] :: out)
    else if b == 9 then
      let stop := (t.next? column).getD (column + 1)
      (stop, true, List.replicate (stop - column) 32 :: out)
    else
      let column := if b == 8 then column - 1 else column + 1
      (column, !initialOnly || isBlank b, [b] :: out)
  (line.foldl step (0, true, [])).2.2.reverse.flatten

/-- The state of a line whose blanks become tabs. -/
structure Unexpanding where
  converting : Bool
  column : Nat
  /-- Whether the first of the blanks held back ends just before a stop. -/
  blankBeforeStop : Bool
  afterBlank : Bool
  /-- The blanks held back. -/
  held : Bytes
  out : List Bytes

/-- What is written of the blanks held back. -/
def Unexpanding.release (s : Unexpanding) : Bytes :=
  if 1 < s.held.length && s.blankBeforeStop then 9 :: s.held.drop 1 else s.held

/-- Goes on behind a byte that is written as another; `stop` asks that no more is
converted. -/
def Unexpanding.emit (s : Unexpanding) (all blank : Bool) (b : UInt8) : Unexpanding :=
  { s with
    out := (s.release ++ [b]) :: s.out
    held := []
    blankBeforeStop := false
    afterBlank := blank
    converting := s.converting && (all || blank) }

/-- Goes on with one byte. -/
def Unexpanding.step (t : TabStops) (all : Bool) (s : Unexpanding) (b : UInt8) : Unexpanding :=
  if !s.converting then { s with out := [b] :: s.out }
  else if isBlank b then
    match t.next? s.column with
    | none => { s with converting := false }.emit all true b
    | some stop =>
        if b == 9 then
          let held := if s.held.isEmpty then [] else 9 :: s.held.drop 1
          { s with column := stop, held := held.take (if s.blankBeforeStop then 1 else 0) }.emit all
            true 9
        else
          let column := s.column + 1
          if !(s.afterBlank && column = stop) then
            { s with
              column
              blankBeforeStop := s.blankBeforeStop || column = stop
              held := s.held ++ [b]
              afterBlank := true }
          else
            let held : Bytes := if s.blankBeforeStop then [9] else []
            { s with column, held }.emit all true 9
  else
    { s with column := if b == 8 then s.column - 1 else s.column + 1 }.emit all false b

/-- The tabs of a line put in the place of its blanks. -/
def unexpandLine (t : TabStops) (all : Bool) (line : Bytes) : Bytes :=
  let s := line.foldl (Unexpanding.step t all) ⟨true, 0, false, true, [], []⟩
  s.out.reverse.flatten ++ s.release

/-- Changes every line of the operands.  A line that an operand does not end goes on in the next
one. -/
def changeLines (c : Call) (change : Bytes → Bytes) (operands : List String) : Action Nat := do
  let pass (begun piece : Bytes) : Action (Bytes × Bool) := do
    let (records, rest) := cutRecords 10 begun piece
    c.put (records.map fun record ↦ change (chomp 10 record) ++ [10]).flatten
    return (rest, false)
  let mut code := 0
  let mut begun : Bytes := []
  for path in orInput operands do
    match ← openOperand path with
    | .error e =>
        c.warn s!"{shownName path}: {e.text}"
        code := 1
    | .ok fd =>
        let (rest, e) ← forPieces fd pieceSize pass pieceLimit begun
        begun := rest
        if let some e := e then
          c.warn s!"{shownName path}: {e.text}"
          code := 1
        closeOperand path fd
  c.put (change begun)
  c.closeInput operands "-" code

/-- Ends with what is wrong with a list of stops. -/
def rejectStops {α : Type} (c : Call) (faults : List String) : Action α := do
  for text in faults do c.warn text
  stop 1

/-- The program `expand`. -/
def expandMain (c : Call) : Action Nat := do
  let (a, complaint) :=
    c.readPartly (.flag 'i' "initial" :: (Choice.flag 't' "tabs").valued.withDigits)
  let mut t : TabStops := ⟨[], 0, 0⟩
  for text in a.values "t" do
    match t.add text with
    | .ok more => t := more
    | .error faults => rejectStops c faults
  c.rejectAny 1 complaint
  if let some text := t.fault? then c.die 1 text
  changeLines c (expandLine t (a.has "i")) a.operands

/-- The stops that options of `unexpand` give, and whether all blanks are changed.  Digits make
up a number, and a comma ends it. -/
def unexpandStops (c : Call) :
    TabStops × Bool → Option Nat → List (String × Option String) → Action (TabStops × Bool)
  | (t, all), number, [] => return ({ t with list := t.list ++ number.toList }, all)
  | (t, all), number, (key, value) :: rest =>
      match key, value with
      | "t", some text =>
          match t.add text with
          | .ok t => unexpandStops c (t, true) number rest
          | .error faults => rejectStops c faults
      | "a", _ => unexpandStops c (t, true) number rest
      | ",", _ => unexpandStops c ({ t with list := t.list ++ number.toList }, all) none rest
      | "first-only", _ => unexpandStops c (t, all) number rest
      | digit, _ =>
          let n := number.getD 0 * 10 + sizeOf "" digit
          if n < wordModulus then unexpandStops c (t, all) (some n) rest
          else c.die 1 "tab stop value is too large"

/-- The program `unexpand`. -/
def unexpandMain (c : Call) : Action Nat := do
  let (a, complaint) := c.readPartly
    ([.flag 'a' "all", .word "first-only", (Choice.flag 't' "tabs").valued] ++
      ",0123456789".toList.map Choice.letter)
  let (t, all) ← unexpandStops c (⟨[], 0, 0⟩, false) none a.options
  c.rejectAny 1 complaint
  if let some text := t.fault? then c.die 1 text
  changeLines c (unexpandLine t (all && !a.has "first-only")) a.operands

end PipeShell.Userland

import PipeShell.Userland.Options
import PipeShell.Userland.Characters

/-!
# Columns of lines

The programs `cut` and `paste`.  A list of ranges selects bytes or fields; an
open range goes on to the end of the line.
-/

namespace PipeShell.Userland

open PipeShell.Userland.Action

/-- A range of positions, counted from 1. -/
structure PositionRange where
  first : Nat
  /-- There is none if the range is open. -/
  last : Option Nat
  deriving DecidableEq, Repr

namespace PositionRange

def contains (r : PositionRange) (n : Nat) : Bool :=
  r.first ≤ n && r.last.all (n ≤ ·)

/-- Ranges in order, those that overlap put together. -/
def merge : List PositionRange → List PositionRange
  | [] => []
  | [r] => [r]
  | a :: b :: rest =>
      if a.last.all (b.first ≤ ·) then
        let last := do return max (← a.last) (← b.last)
        merge (⟨a.first, last⟩ :: rest)
      else a :: merge (b :: rest)
termination_by ranges => ranges.length

/-- The positions that ranges in order leave out, from one on. -/
def complement (start : Nat) : List PositionRange → List PositionRange
  | [] => [⟨start, none⟩]
  | r :: rest =>
      let before := if start < r.first then [⟨start, some (r.first - 1)⟩] else []
      match r.last with
      | some last => before ++ complement (last + 1) rest
      | none => before

/-- Whether a position is in one of some ranges, and whether a range starts
there. -/
def find (ranges : List PositionRange) (n : Nat) : Bool × Bool :=
  (ranges.any (·.contains n), ranges.any (·.first == n))

end PositionRange

/-- The part of a list up to a comma or a blank. -/
def rangeOf (bytes : Bool) (text : Bytes) : Except String PositionRange :=
  let fromOne :=
    if bytes then "byte/character positions are numbered from 1" else "fields are numbered from 1"
  let value (digits : Bytes) : Except String Nat :=
    let n := valueOf 10 digits
    if n < wordModulus - 1 then .ok n
    else
      let what := if bytes then "byte/character offset" else "field number"
      .error s!"{what} {quoted (plainText digits)} is too large"
  let strange (rest : Bytes) : String :=
    (if bytes then "invalid byte/character position " else "invalid field value ") ++
      quoted (plainText rest)
  let left := text.takeWhile isDigit
  match text.drop left.length with
  | [] => do
      let n ← value left
      if n = 0 then throw fromOne
      return ⟨n, some n⟩
  | 0x2D :: rest => do
      let first ← value left
      if !left.isEmpty && first = 0 then throw fromOne
      let first := if left.isEmpty then 1 else first
      let right := rest.takeWhile isDigit
      match rest.drop right.length with
      | [] =>
          if right.isEmpty then
            if left.isEmpty then throw "invalid range with no endpoint: -"
            return ⟨first, none⟩
          let last ← value right
          if last < first then throw "invalid decreasing range"
          return ⟨first, some last⟩
      | 0x2D :: _ =>
          throw (if bytes then "invalid byte or character range" else "invalid field range")
      | strangeRest => throw (strange strangeRest)
  | rest => .error (strange rest)

/-- The ranges of a list. -/
def rangesOf (bytes : Bool) (text : Bytes) : Except String (List PositionRange) := do
  let isEnd (b : UInt8) : Bool := b == 0x2C || isBlank b
  let parts := (recordsOf 0 (text.map fun b ↦ if isEnd b then 0 else b)).map (chomp 0)
  let parts := if text.getLast?.all isEnd then parts ++ [[]] else parts
  let ranges ← parts.mapM fun part ↦ rangeOf bytes part
  return PositionRange.merge (ranges.mergeSort fun a b ↦ a.first ≤ b.first)

/-- The bytes of a line at some positions; where a range starts, a text is put in
front of it. -/
def cutBytes (ranges : List PositionRange) (between : Option Bytes) (line : Bytes) : Bytes :=
  let step (state : Nat × Bool × List Bytes) (b : UInt8) : Nat × Bool × List Bytes :=
    let (n, begun, out) := state
    let (selected, starts) := PositionRange.find ranges n
    if selected then
      let lead := if starts && begun then between.getD [] else []
      (n + 1, true, (lead ++ [b]) :: out)
    else (n + 1, begun, out)
  (line.foldl step (1, false, [])).2.2.reverse.flatten

/-- Some fields of a line; a line without a delimiter is taken whole or not at
all. -/
def cutFields (ranges : List PositionRange) (delimiter : UInt8) (between : Bytes)
    (onlyDelimited : Bool) (line : Bytes) : Option Bytes :=
  if !line.contains delimiter then (if onlyDelimited then none else some line)
  else
    let fields := linesOf delimiter line ++ if line.getLast? == some delimiter then [[]] else []
    let selected := (fields.zipIdx 1).filter fun f ↦ (PositionRange.find ranges f.2).1
    some ((selected.map (·.1)).intersperse between).flatten

/-- The program `cut`. -/
def cutMain (c : Call) : Action Nat := do
  let a ← c.read [(Choice.flag 'b' "bytes").valued, (Choice.flag 'c' "characters").valued,
    (Choice.flag 'f' "fields").valued, (Choice.flag 'd' "delimiter").valued, .letter 'n',
    .flag 's' "only-delimited", .flag 'z' "zero-terminated", .word "complement",
    (Choice.word "output-delimiter").valued] 1
  let delimiter := encode ((a.value? "d").getD "\t")
  if 1 < delimiter.length then c.misuse 1 "the delimiter must be a single character"
  let delimiter : UInt8 := delimiter.headD 0
  let lists := a.options.filter fun o ↦ ["b", "c", "f"].contains o.1
  if 1 < lists.length then c.misuse 1 "only one list may be specified"
  let some (key, list) := lists.head?
    | c.misuse 1 "you must specify a list of bytes, characters, or fields"
  let bytes := key != "f"
  if bytes then
    if a.has "d" then
      c.misuse 1 "an input delimiter may be specified only when operating on fields"
    if a.has "s" then
      c.misuse 1
        "suppressing non-delimited lines makes sense\n\tonly when operating on fields"
  let ranges ←
    match rangesOf bytes (encode (list.getD "")) with
    | .ok ranges => pure ranges
    | .error text => c.misuse 1 text
  let ranges := if a.has "complement" then PositionRange.complement 1 ranges else ranges
  let between := (a.value? "output-delimiter").map encode
  let terminator : UInt8 := if a.has "z" then 0 else 10
  let pass (_ : Unit) (record : Bytes) : Action (Unit × Bool) := do
    let line := chomp terminator record
    let selected :=
      if bytes then some (cutBytes ranges between line)
      else cutFields ranges delimiter (between.getD [delimiter]) (a.has "s") line
    if let some selected := selected then c.put (selected ++ [terminator])
    return ((), false)
  let mut code := 0
  for path in orInput a.operands do
    match ← openOperand path with
    | .error e =>
        c.warn s!"{shownName path}: {e.text}"
        code := 1
    | .ok fd =>
        let (_, e) ← forRecords fd terminator pass ()
        if let some e := e then
          c.warn s!"{shownName path}: {e.text}"
          code := 1
        closeOperand path fd
  c.closeInput a.operands "-" code

/-- The delimiters of a list, where escapes stand for single bytes or for none;
there are none if the list ends inside of an escape. -/
def pasteDelimiters : Bytes → Option (List Bytes)
  | [] => some []
  | [0x5C] => none
  | 0x5C :: b :: rest => do
      let known : List (UInt8 × Bytes) :=
        [(48, []), (0x62, [8]), (0x66, [12]), (0x6E, [10]), (0x72, [13]), (0x74, [9]), (0x76, [11])]
      return (known.lookup b).getD [b] :: (← pasteDelimiters rest)
  | b :: rest => do return [b] :: (← pasteDelimiters rest)

/-- Texts with the delimiters between them, over and over again. -/
def joinCycling (delimiters : List Bytes) (texts : List Bytes) : Bytes :=
  let step (state : Nat × List Bytes) (text : Bytes) : Nat × List Bytes :=
    let (n, out) := state
    let lead := if n = 0 then [] else delimiters.getD ((n - 1) % delimiters.length) []
    (n + 1, (lead ++ text) :: out)
  (texts.foldl step (0, [])).2.reverse.flatten

/-- The next line for each of some columns, where `-` takes the next one of
standard input. -/
def pasteRow : List String → Nat → List Bytes → List (List Bytes) →
    List (Option Bytes) × List Bytes × List (List Bytes)
  | "-" :: paths, fuel + 1, input, _ :: files =>
      let (row, rest, files) := pasteRow paths fuel (input.drop 1) files
      (input.head? :: row, rest, [] :: files)
  | _ :: paths, fuel + 1, input, file :: files =>
      let (row, input, files) := pasteRow paths fuel input files
      (file.head? :: row, input, file.drop 1 :: files)
  | _, _, input, files => ([], input, files)

/-- The rows of some columns, until all of them are at their end. -/
def pasteRows (paths : List String) (input : List Bytes) (files : List (List Bytes)) :
    Nat → List (List Bytes)
  | 0 => []
  | fuel + 1 =>
      let (row, input, files) := pasteRow paths paths.length input files
      if row.all Option.isNone then []
      else row.map (·.getD []) :: pasteRows paths input files fuel

/-- The program `paste`. -/
def pasteMain (c : Call) : Action Nat := do
  let a ← c.read [(Choice.flag 'd' "delimiters").valued, .flag 's' "serial",
    .flag 'z' "zero-terminated"] 1
  let terminator : UInt8 := if a.has "z" then 0 else 10
  let list := (a.value? "d").getD "\t"
  let some delimiters := pasteDelimiters (encode (if list = "" then "\\0" else list))
    | c.die 1 s!"delimiter list ends with an unescaped backslash: {list}"
  let mut inputs : List (String × List Bytes) := []
  let mut code := 0
  let mut typed : List Bytes := []
  for path in orInput a.operands do
    match ← openOperand path with
    | .error e =>
        c.warn s!"{shownName path}: {e.text}"
        if !a.has "s" then stop 1
        code := 1
    | .ok fd =>
        let (data, e) ← readAll fd
        let lines := linesOf terminator data
        if a.has "s" then c.put (joinCycling delimiters lines ++ [terminator])
        else
          if path = "-" && !lines.isEmpty then typed := lines
          inputs := inputs ++ [(path, lines)]
        if let some e := e then
          c.warn s!"{shownName path}: {e.text}"
          code := 1
        closeOperand path fd
  if !a.has "s" then
    let count := inputs.foldl (fun n i ↦ n + i.2.length) 0
    for row in pasteRows (inputs.map (·.1)) typed (inputs.map (·.2)) (count + 1) do
      c.put (joinCycling delimiters row ++ [terminator])
  c.closeInput a.operands "-" code

end PipeShell.Userland

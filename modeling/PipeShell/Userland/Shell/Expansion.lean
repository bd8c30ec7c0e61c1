import PipeShell.Userland.Shell.Arithmetic
import PipeShell.Userland.Shell.State
import PipeShell.Userland.Wildcards

/-!
# Expansion

What a word stands for.  First its pieces are put in the place of the expansions, which
gives a row of segments that tell where fields may be divided; then the fields are cut
out; and at last a field that is a pattern gives the paths that match it.
-/

namespace PipeShell.Userland.Shell

/-- A byte of what a word stands for, and whether it is kept from having a meaning in a
pattern. -/
structure Cell where
  byte : UInt8
  kept : Bool

/-- A part of what a word stands for. -/
inductive Segment where
  /-- A text that is not divided. -/
  | text (cells : List Cell)
  /-- Quotes, which make a field of nothing. -/
  | quotes
  /-- Texts that are divided at separators, and from each other. -/
  | fields (parts : List (List Cell))
  /-- Texts that are divided from each other only. -/
  | arguments (parts : List (List Cell))

/-- For what a word is expanded. -/
structure Style where
  /-- Whether the word is divided into fields. -/
  divides : Bool
  /-- Whether a tilde at its beginning stands for a directory. -/
  tilde : Bool
  /-- Whether it gives a variable a value, so that a tilde may follow the first equals
  sign and every colon. -/
  assigns : Bool
  /-- Whether it is the word of an expansion, in which text is divided too. -/
  inner : Bool

namespace Style

/-- A word that is divided into fields. -/
def full : Style := ⟨true, true, false, false⟩

/-- A word that stays one. -/
def single : Style := ⟨false, true, false, false⟩

/-- A word that gives a variable a value. -/
def assignment : Style := ⟨false, false, true, false⟩

/-- A text in which only expansions are made. -/
def bare : Style := ⟨false, false, false, false⟩

end Style

/-- Cells of a text. -/
def cellsOf (kept : Bool) (text : Bytes) : List Cell :=
  text.map fun b ↦ ⟨b, kept⟩

def textOfCells (cells : List Cell) : Bytes :=
  cells.map (·.byte)

namespace Segment

def cells : Segment → List Cell
  | .text cells => cells
  | .quotes => []
  | .fields parts | .arguments parts => parts.flatten

/-- The segments of a value. -/
def ofValue (quoted : Bool) (text : Bytes) : List Segment :=
  if quoted then [.text (cellsOf true text)] else [.fields [cellsOf false text]]

end Segment

/-- The cells of segments that are not divided. -/
def joinedCells (segments : List Segment) : List Cell :=
  segments.flatMap Segment.cells

/-- The text of segments that are not divided. -/
def joinedText (segments : List Segment) : Bytes :=
  textOfCells (joinedCells segments)

/-- The pattern that cells are. -/
def patternOf (cells : List Cell) : Bytes :=
  go false cells
where
  /-- `guarded` says whether a backslash stands in front. -/
  go (guarded : Bool) : List Cell → Bytes
    | [] => []
    | c :: rest =>
        if c.kept then (if guarded then [c.byte] else [0x5C, c.byte]) ++ go false rest
        else c.byte :: go (c.byte == 0x5C) rest

/-! ## Tildes -/

/-- The directory of a user, or of the user the shell runs for. -/
def homeOf? (s : State) (user : Bytes) : Option Bytes :=
  if user.isEmpty then s.valueOf? "HOME"
  else if user == encode "root" then some (encode "/root")
  else none

/-- The directory that a tilde at the beginning of a text stands for, and what follows
it; `more` says whether something follows the text. -/
def tilde? (s : State) (assigns more : Bool) (text : Bytes) : Option (Bytes × Bytes) :=
  match text with
  | 0x7E :: rest =>
      let user := rest.takeWhile fun b ↦ b != 0x2F && !(assigns && b == 0x3A)
      let after := rest.drop user.length
      if after.isEmpty && more then none else (homeOf? s user).map fun home ↦ (home, after)
  | _ => none

/-- A text cut behind its first equals sign, if that still counts, and behind every
colon. -/
def cutBehindSigns (equals : Bool) : Bytes → List Bytes
  | [] => [[]]
  | b :: rest =>
      let isEquals := equals && b == 0x3D
      if isEquals || b == 0x3A then [b] :: cutBehindSigns (equals && !isEquals) rest
      else
        match cutBehindSigns equals rest with
        | first :: more => (b :: first) :: more
        | [] => [[b]]

/-- The segments of a text without quotes, with directories in the place of tildes. -/
def plainSegments (s : State) (style : Style) (atStart more : Bool) (text : Bytes) :
    List Segment :=
  let literal (text : Bytes) : List Segment :=
    if style.inner then [.fields [cellsOf false text]] else [.text (cellsOf false text)]
  let withTilde (text : Bytes) (more : Bool) : List Segment :=
    match tilde? s style.assigns more text with
    | some (home, rest) => .text (cellsOf true home) :: literal rest
    | none => literal text
  if style.assigns then
    match cutBehindSigns atStart text with
    | [] => []
    | first :: rest =>
        literal first ++ (rest.zipIdx.flatMap fun (part, i) ↦
          withTilde part (more && i + 1 == rest.length))
  else if style.tilde && atStart then withTilde text more
  else literal text

/-! ## Parameters -/

/-- What a parameter is: texts, and what stands between them, if that is a byte. -/
structure ParameterValue where
  parts : List Bytes
  between : Bytes
  /-- Whether the parts are divided from each other. -/
  divided : Bool

namespace ParameterValue

def single (text : Bytes) : ParameterValue := ⟨[text], [], false⟩

/-- The parts and what is between them. -/
def text (v : ParameterValue) : Bytes :=
  v.between.intercalate v.parts

def length (v : ParameterValue) : Nat :=
  v.parts.flatten.length
    + (v.parts.length - 1) * (if v.divided then 1 else v.between.length)

/-- The segments of a value. -/
def segments (v : ParameterValue) (quoted : Bool) : List Segment :=
  if v.divided then
    if quoted then
      if v.parts.isEmpty then [] else [.arguments (v.parts.map (cellsOf true))]
    else [.fields (v.parts.map (cellsOf false))]
  else Segment.ofValue quoted v.text

end ParameterValue

/-- The letters of options, in the order in which they are shown. -/
def shownOptions : List Char :=
  ['u', 'b', 'a', 'C', 'E', 'V', 'v', 'x', 's', 'n', 'm', 'i', 'I', 'f', 'e']

/-- All parameters of a script, as one or divided from each other. -/
def allParameters (s : State) (quoted divides each : Bool) : ParameterValue :=
  if divides && (each || !quoted) then ⟨s.parameters, [], true⟩
  else ⟨s.parameters, s.separators.take 1, false⟩

/-- The value of a parameter, if it has one. -/
def parameter? (s : State) (quoted divides : Bool) (name : Bytes) : Option ParameterValue :=
  match name with
  | [0x24] => some (.single (decimalText s.processId))
  | [0x3F] => some (.single (decimalText s.status))
  | [0x23] => some (.single (decimalText s.parameters.length))
  | [0x21] => s.lastStarted.map fun pid ↦ .single (decimalText pid)
  | [0x2D] => some (.single (encode (String.ofList (shownOptions.filter s.hasOption))))
  | [0x40] => some (allParameters s quoted divides true)
  | [0x2A] => some (allParameters s quoted divides false)
  | _ =>
      if name.head?.any isDigit then
        match valueOf 10 name with
        | 0 => some (.single s.name)
        | n + 1 => s.parameters[n]?.map .single
      else (s.value? name).map .single

/-- Parts from which a beginning has been taken.  If all of the first part is the longest
one, nothing is left of the others either. -/
def partsWithoutFront (longest : Bool) (pattern : Bytes) : List Bytes → List Bytes
  | [] => []
  | first :: rest =>
      if longest && matchesPattern pattern first then [[]]
      else withoutFront longest pattern first :: rest

/-- Parts from which an end has been taken, with all parts behind it.  The longest one is
looked for in the first part only, the shortest one in all from the last one on. -/
def partsWithoutBack (longest : Bool) (pattern : Bytes) (parts : List Bytes) : List Bytes :=
  let cut (index : Nat) : Option (List Bytes) :=
    (withoutBack? longest pattern (parts.getD index [])).map fun front ↦
      parts.take index ++ [front]
  let places := if longest then [0] else (List.range parts.length).reverse
  if parts.isEmpty then parts else (places.findSome? cut).getD parts

/-- A value from which an end has been taken that matches a pattern. -/
def trimmed (modifier : Modifier) (pattern : Bytes) (v : ParameterValue) : ParameterValue :=
  match modifier with
  | .withoutFront longest =>
      if v.divided then { v with parts := partsWithoutFront longest pattern v.parts }
      else .single (withoutFront longest pattern v.text)
  | .withoutBack longest =>
      if v.divided then { v with parts := partsWithoutBack longest pattern v.parts }
      else .single (withoutBack longest pattern v.text)
  | _ => v

/-! ## Pieces -/

open Running

/-- Complains of a parameter that has no value. -/
def missingParameter {α : Type} (name message : Bytes) : Running α :=
  failWith (name ++ encode ": " ++ message)

/-- The value of arithmetic. -/
def arithmeticValue (text : Bytes) : Running Int := do
  let s ← state
  match calculate s.value? text with
  | .ok (n, set) =>
      for (name, value) in set do assign name (some (integerText value)) false
      return n
  | .error (.number value) => failWith (encode "Illegal number: " ++ value)
  | .error (.expression what) =>
      failWith (encode s!"arithmetic expression: {what}: \"" ++ text ++ [0x22])

/-- A text without the ends of lines at its end. -/
def withoutFinalNewlines (text : Bytes) : Bytes :=
  (text.reverse.dropWhile (· == 0x0A)).reverse

mutual

/-- What pieces stand for. -/
def expandPieces (capture : Command → Running Bytes) (style : Style) (atStart : Bool) :
    List Piece → Running (List Segment)
  | [] => return []
  | piece :: rest => do
      let segments ← expandPiece capture style atStart (!rest.isEmpty) piece
      return segments ++ (← expandPieces capture style false rest)

/-- What a piece stands for; `more` says whether other pieces follow it. -/
def expandPiece (capture : Command → Running Bytes) (style : Style) (atStart more : Bool) :
    Piece → Running (List Segment)
  | .bytes quoted text => do
      if quoted then return [.text (cellsOf true text)]
      return plainSegments (← state) style atStart more text
  | .quotes => return [.quotes]
  | .output quoted command => do
      return Segment.ofValue quoted (withoutFinalNewlines (← capture command))
  | .arithmetic quoted expression => do
      let text := joinedText (← expandPieces capture .bare false expression)
      return Segment.ofValue quoted (integerText (← arithmeticValue text))
  | .parameter quoted name modifier word => do
      let s ← state
      let value := parameter? s quoted style.divides name
      let present (orEmpty : Bool) : Bool := value.any fun v ↦ !(orEmpty && v.length = 0)
      let shown : Running (List Segment) :=
        match value with
        | some v => return v.segments quoted
        | none => do
            if s.hasOption 'u' then missingParameter name (encode "parameter not set")
            return []
      let wordStyle : Style := { style with tilde := true, inner := !quoted }
      match modifier with
      | .plain => shown
      | .bad => fail "Bad substitution"
      | .length =>
          match value with
          | some v => return Segment.ofValue quoted (decimalText v.length)
          | none => do
              let _ ← shown
              return Segment.ofValue quoted [0x30]
      | .fallback orEmpty =>
          if present orEmpty then shown else expandPieces capture wordStyle true word
      | .alternative orEmpty =>
          if present orEmpty then expandPieces capture wordStyle true word else return []
      | .assign orEmpty => do
          if present orEmpty then shown
          else
            let text := joinedText (← expandPieces capture .single true word)
            setVariable name text
            return Segment.ofValue quoted (((← state).value? name).getD [])
      | .require orEmpty => do
          if present orEmpty then shown
          else
            let text := joinedText (← expandPieces capture .single true word)
            let usual := encode ("parameter not set" ++ if orEmpty then " or null" else "")
            missingParameter name (if word.isEmpty then usual else text)
      | .withoutFront _ | .withoutBack _ => do
          match value with
          | none => shown
          | some v =>
              let pattern := patternOf (joinedCells (← expandPieces capture .single true word))
              return (trimmed modifier pattern v).segments quoted

end

/-! ## Fields -/

/-- Fields being cut out of segments. -/
structure Division where
  /-- The fields that are complete, the last one first. -/
  done : List (List Cell)
  /-- The cells of the next one, the last one first. -/
  cells : List Cell
  /-- Whether quotes belong to the next one. -/
  marked : Bool
  /-- Whether the last segment that was divided ended with an argument, which counts
  even if it is empty.  Then every separator in the next one counts as well. -/
  due : Bool
  /-- Behind a separator: whether only blanks have been met. -/
  skipping : Option Bool

namespace Division

def start : Division := ⟨[], [], false, false, none⟩

/-- Completes a field. -/
def finish (d : Division) : Division :=
  { d with done := d.cells.reverse :: d.done, cells := [], marked := false }

/-- Whether a cell separates fields, and whether it is a blank; no cell at all is what
parts are divided by. -/
def separates (separators : Bytes) (c : Option Cell) : Bool × Bool :=
  match c with
  | none => (true, true)
  | some c => (separators.contains c.byte, State.usualSeparators.contains c.byte)

/-- Takes a cell that does not follow a separator. -/
def take (separators : Bytes) (d : Division) (c : Option Cell) : Division :=
  let d := { d with skipping := none }
  match separates separators c, c with
  | (true, blank), _ =>
      if d.due then d.finish
      else if d.cells.isEmpty && !d.marked && blank then d
      else { d.finish with skipping := some blank }
  | (false, _), some c => { d with cells := c :: d.cells }
  | (false, _), none => d

/-- Takes a cell. -/
def step (separators : Bytes) (d : Division) (c : Option Cell) : Division :=
  match d.skipping with
  | none => d.take separators c
  | some onlyBlanks =>
      match separates separators c with
      | (true, true) => d
      | (true, false) => if onlyBlanks then { d with skipping := some false } else d.take separators c
      | (false, _) => d.take separators c

/-- Takes a segment. -/
def segment (separators : Bytes) (d : Division) : Segment → Division
  | .text cells => { d with cells := cells.reverse ++ d.cells }
  | .quotes => { d with marked := true }
  | .fields parts =>
      let row := [(none : Option Cell)].intercalate (parts.map fun cells ↦ cells.map some)
      { row.foldl (step separators) d with due := false, skipping := none }
  | .arguments parts =>
      match parts with
      | [] => d
      | first :: rest =>
          let d := { d with cells := first.reverse ++ d.cells }
          let d := rest.foldl (fun d cells ↦ { d.finish with cells := cells.reverse }) d
          { d with due := true }

/-- All fields. -/
def fields (d : Division) : List (List Cell) :=
  (if d.due || d.marked || !d.cells.isEmpty then d.finish else d).done.reverse

end Division

/-- The fields that segments are divided into. -/
def dividedFields (separators : Bytes) (segments : List Segment) : List (List Cell) :=
  (segments.foldl (Division.segment separators) .start).fields

/-! ## Paths -/

/-- The names between the slashes of a pattern. -/
def pathParts : Bytes → List Bytes
  | [] => [[]]
  | 0x5C :: 0x2F :: rest | 0x2F :: rest => [] :: pathParts rest
  | 0x5C :: b :: rest =>
      match pathParts rest with
      | first :: more => (0x5C :: b :: first) :: more
      | [] => [[0x5C, b]]
  | b :: rest =>
      match pathParts rest with
      | first :: more => (b :: first) :: more
      | [] => [[b]]

/-- The names in a directory that match a pattern.  Those that begin with a dot match
only a pattern that does. -/
def matchingNames (directory pattern : Bytes) : Action (List Bytes) := do
  let path := if directory.isEmpty then "." else nameOfBytes directory
  match ← Action.names (.list path) with
  | .error _ => return []
  | .ok found =>
      let hidden := pattern.head? == some 0x2E || beginsWith pattern [0x5C, 0x2E]
      let names := (found ++ [".", ".."]).map encode
      return names.filter fun name ↦
        (hidden || name.head? != some 0x2E) && matchesPattern pattern name

/-- The paths behind a directory whose names match the parts of a pattern; `found` says
whether the directory has been found by a pattern itself. -/
def matchingPaths (directory : Bytes) (found : Bool) : List Bytes → Action (List Bytes)
  | [] => return []
  | [last] => do
      if isPattern last then
        return (← matchingNames directory last).map (directory ++ ·)
      let path := directory ++ withoutBackslashes last
      if found && (← Action.facts (.facts (nameOfBytes path) false)).isOk then return [path]
      return []
  | part :: rest => do
      if isPattern part then
        let names ← matchingNames directory part
        let rows ← names.mapM fun name ↦ matchingPaths (directory ++ name ++ [0x2F]) true rest
        return rows.flatten
      matchingPaths (directory ++ withoutBackslashes part ++ [0x2F]) found rest

/-- The paths that a field stands for: those that match it, in order, or its text. -/
def pathsOf (cells : List Cell) : Action (List Bytes) := do
  let plain := textOfCells cells
  if !plain.any (fun b ↦ b == 0x2A || b == 0x3F || b == 0x5B) then return [plain]
  let paths ← matchingPaths [] false (pathParts (patternOf cells))
  if paths.isEmpty then return [plain]
  return paths.mergeSort fun a b ↦ compareBytes a b != .gt

/-! ## Words -/

/-- The fields that a word stands for. -/
def expandFields (capture : Command → Running Bytes) (word : Word) : Running (List Bytes) := do
  let segments ← expandPieces capture .full true word
  let s ← state
  let fields := dividedFields s.separators segments
  if s.hasOption 'f' then return fields.map textOfCells
  let paths ← fields.mapM fun cells ↦ act (pathsOf cells)
  return paths.flatten

/-- The text that a word stands for. -/
def expandText (capture : Command → Running Bytes) (style : Style) (word : Word) :
    Running Bytes := do
  return joinedText (← expandPieces capture style true word)

/-- The pattern that a word stands for. -/
def expandPattern (capture : Command → Running Bytes) (word : Word) : Running Bytes := do
  return patternOf (joinedCells (← expandPieces capture .single true word))

end PipeShell.Userland.Shell

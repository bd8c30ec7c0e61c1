import PipeShell.Userland.Regex
import PipeShell.Userland.Sizes

/-!
# Counting and numbering lines

The programs `nl` and `wc`.  A text for `nl` can be in sections, each with its
own choice of lines that get a number.
-/

namespace PipeShell.Userland

open PipeShell.Userland.Action

/-! ## Numbering -/

/-- Which lines get a number. -/
inductive NumberedLines where
  | all
  | nonempty
  | none
  /-- Those in which something matches. -/
  | matching (pattern : Regex)

/-- The parts of a page. -/
inductive PagePart where
  | header
  | body
  | footer
  deriving DecidableEq, Repr

/-- How lines are numbered. -/
structure Numbering where
  header : NumberedLines
  body : NumberedLines
  footer : NumberedLines
  delimiter : Bytes
  start : Int
  increment : Int
  /-- How many empty lines count as one. -/
  emptyLines : Nat
  left : Bool
  zeros : Bool
  separator : Bytes
  width : Nat
  goesOn : Bool

/-- Where a numbering stands. -/
structure NumberingState where
  part : PagePart
  next : Int
  empty : Nat

namespace Numbering

/-- How the patterns of lines are written. -/
def patternStyle : Regex.Style := ⟨false, false, false⟩

/-- The text of a number. -/
def label (n : Numbering) (value : Int) : Bytes :=
  let digits := digitsIn 10 value.natAbs
  let sign : Bytes := if value < 0 then [0x2D] else []
  let text :=
    if n.left then padRight n.width (sign ++ digits)
    else if n.zeros then
      sign ++ List.replicate (n.width - sign.length - digits.length) 48 ++ digits
    else padLeft n.width (sign ++ digits)
  text ++ n.separator

/-- The part of a page that a line opens. -/
def opens? (n : Numbering) (line : Bytes) : Option PagePart :=
  let d := n.delimiter
  if d.isEmpty then none
  else if line == d ++ d ++ d then some .header
  else if line == d ++ d then some .body
  else if line == d then some .footer
  else none

/-- What a line becomes. -/
def line (n : Numbering) (s : NumberingState) (text : Bytes) : Bytes × NumberingState :=
  match n.opens? text with
  | some part => ([10], { s with part, next := if n.goesOn then s.next else n.start })
  | none =>
      let blank := List.replicate (n.width + n.separator.length) 32
      let plain (s : NumberingState) : Bytes × NumberingState := (blank ++ text ++ [10], s)
      let numbered (s : NumberingState) : Bytes × NumberingState :=
        (n.label s.next ++ text ++ [10], { s with next := s.next + n.increment, empty := 0 })
      let style :=
        match s.part with
        | .header => n.header
        | .body => n.body
        | .footer => n.footer
      match style with
      | .none => plain s
      | .matching pattern =>
          let found := Regex.search patternStyle pattern text.length ⟨[], text⟩
          if found.isSome then
            let (out, after) := numbered s
            (out, { after with empty := s.empty })
          else plain s
      | .nonempty =>
          if text.isEmpty then plain s
          else
            let (out, after) := numbered s
            (out, { after with empty := s.empty })
      | .all =>
          if !text.isEmpty || s.empty + 1 = n.emptyLines then numbered s
          else plain { s with empty := s.empty + 1 }

end Numbering

/-- The lines that a style numbers, if there is such a style. -/
def readStyle (c : Call) (text : String) : Action (Option NumberedLines) :=
  match text.toList with
  | ['a'] => return some .all
  | ['t'] => return some .nonempty
  | ['n'] => return some .none
  | 'p' :: pattern =>
      match Regex.read Numbering.patternStyle (encode (String.ofList pattern)) with
      | .ok (r, _) => return some (.matching r)
      | .error e => c.die 1 e.message
  | _ => return none

/-- The options of `nl`. -/
def nlChoices : List Choice :=
  let number (c : Char) (word what : String) (least most : Int) : Choice :=
    (Choice.flag c word).valued.checked (wholeFault? s!"invalid {what}" least most)
  let least : Int := -halfModulus
  let most : Int := halfModulus - 1
  [(Choice.flag 'b' "body-numbering").valued, (Choice.flag 'd' "section-delimiter").valued,
    (Choice.flag 'f' "footer-numbering").valued, (Choice.flag 'h' "header-numbering").valued,
    number 'i' "line-increment" "line number increment" least most,
    number 'l' "join-blank-lines" "line number of blank lines" 1 most,
    (Choice.flag 'n' "number-format").valued, .flag 'p' "no-renumber",
    (Choice.flag 's' "number-separator").valued,
    number 'v' "starting-line-number" "starting line number" least most,
    number 'w' "number-width" "line number field width" 1 0x7FFFFFFF]

/-- What the options of `nl` ask for, and whether all of them are right. -/
def readNumbering (c : Call) :
    Numbering × Bool → List (String × Option String) → Action (Numbering × Bool)
  | (n, good), [] => return (n, good)
  | (n, good), (key, value) :: rest => do
      let text := value.getD ""
      let bytes := encode text
      let styled (part : String) (f : NumberedLines → Numbering) : Action (Numbering × Bool) := do
        match ← readStyle c text with
        | some style => return (f style, good)
        | none =>
            c.warn s!"invalid {part} numbering style: {quoted text}"
            return (n, false)
      let next ←
        match key with
        | "h" => styled "header" fun header ↦ { n with header }
        | "b" => styled "body" fun body ↦ { n with body }
        | "f" => styled "footer" fun footer ↦ { n with footer }
        | "d" =>
            let short := bytes.length = 1 || bytes.length = 2
            let delimiter := if short then bytes ++ n.delimiter.drop bytes.length else bytes
            pure ({ n with delimiter }, good)
        | "i" => pure ({ n with increment := wholeOf text }, good)
        | "l" => pure ({ n with emptyLines := (wholeOf text).toNat }, good)
        | "n" =>
            if ["ln", "rn", "rz"].contains text then
              pure ({ n with left := text == "ln", zeros := text == "rz" }, good)
            else
              c.warn s!"invalid line numbering format: {quoted text}"
              pure (n, false)
        | "p" => pure ({ n with goesOn := true }, good)
        | "s" => pure ({ n with separator := bytes }, good)
        | "v" => pure ({ n with start := wholeOf text }, good)
        | "w" => pure ({ n with width := (wholeOf text).toNat }, good)
        | _ => pure (n, good)
      readNumbering c next rest

/-- The program `nl`. -/
def nlMain (c : Call) : Action Nat := do
  let (a, complaint) := c.readPartly nlChoices
  let usual : Numbering :=
    ⟨.none, .nonempty, .none, encode "\\:", 1, 1, 1, false, false, encode "\t", 6, false⟩
  let (n, good) ← readNumbering c (usual, true) a.options
  c.rejectAny 1 complaint
  if !good then c.seeHelp 1
  let pass (s : NumberingState) (record : Bytes) : Action (NumberingState × Bool) := do
    let (out, s) := n.line s (chomp 10 record)
    c.put out
    return (s, false)
  let mut state : NumberingState := ⟨.body, n.start, 0⟩
  let mut code := 0
  for path in orInput a.operands do
    match ← openOperand path with
    | .error e =>
        c.warn s!"{shownName path}: {e.text}"
        code := 1
    | .ok fd =>
        let (s, e) ← forRecords fd 10 pass state
        state := s
        if let some e := e then
          c.warn s!"{shownName path}: {e.text}"
          code := 1
        closeOperand path fd
  c.closeInput a.operands "-" code

/-! ## Counting -/

/-- What is counted of a text. -/
structure Counts where
  lines : Nat
  words : Nat
  bytes : Nat
  characters : Nat
  longest : Nat
  deriving DecidableEq, Repr

namespace Counts

def zero : Counts :=
  ⟨0, 0, 0, 0, 0⟩

/-- The counts of two texts together. -/
def add (a b : Counts) : Counts :=
  ⟨a.lines + b.lines, a.words + b.words, a.bytes + b.bytes, a.characters + b.characters,
    max a.longest b.longest⟩

/-- A count under way: whether a word is, and how wide the line is. -/
structure State where
  counts : Counts
  inWord : Bool
  width : Nat

/-- Counts a byte.  Only bytes that can be seen make a word, and only spaces end
one. -/
def State.step (s : State) (b : UInt8) : State :=
  let n := s.counts
  let n := { n with bytes := n.bytes + 1, characters := n.characters + 1 }
  if b == 10 || b == 12 || b == 13 then
    let lines := if b == 10 then n.lines + 1 else n.lines
    ⟨{ n with lines, longest := max n.longest s.width }, false, 0⟩
  else if b == 9 then ⟨n, false, s.width + 8 - s.width % 8⟩
  else if b == 32 || b == 11 then ⟨n, false, s.width + if b == 32 then 1 else 0⟩
  else if isGraph b then
    ⟨{ n with words := n.words + if s.inWord then 0 else 1 }, true, s.width + 1⟩
  else ⟨n, s.inWord, s.width⟩

/-- The counts of all that was read. -/
def State.finish (s : State) : Counts :=
  { s.counts with longest := max s.counts.longest s.width }

end Counts

/-- Which counts are shown, always in this order. -/
structure ShownCounts where
  lines : Bool
  words : Bool
  characters : Bool
  bytes : Bool
  longest : Bool
  deriving DecidableEq, Repr

/-- The numbers that are shown. -/
def ShownCounts.numbers (s : ShownCounts) (n : Counts) : List Nat :=
  (if s.lines then [n.lines] else []) ++ (if s.words then [n.words] else []) ++
    (if s.characters then [n.characters] else []) ++ (if s.bytes then [n.bytes] else []) ++
    if s.longest then [n.longest] else []

/-- The size of a page, in which files are laid out. -/
def pageSize : Nat := 4096

/-- Counts what is behind a descriptor.  Where only bytes are asked for, the size
of a file that does not end with a page tells them without reading. -/
def countInput (shown : ShownCounts) (fd : Descriptor) : Action (Counts × Option Errno) := do
  let count : Action (Counts × Option Errno) := do
    let pass (s : Counts.State) (piece : Bytes) : Action (Counts.State × Bool) :=
      return (piece.foldl Counts.State.step s, false)
    let (s, e) ← forPieces fd pieceSize pass pieceLimit ⟨.zero, false, 0⟩
    return (s.finish, e)
  if shown.bytes && !shown.lines && !shown.words && !shown.characters && !shown.longest then
    match ← facts (.factsOf fd), ← number (.place fd) with
    | .ok f, .ok place =>
        if f.kind = .regular && f.size % pageSize ≠ 0 then
          return ({ Counts.zero with bytes := f.size - place }, none)
        else count
    | _, _ => count
  else count

/-- The width of the numbers, which goes by the sizes of the files. -/
def numberWidth (shown : ShownCounts) (sizes : List (Option Facts)) : Nat :=
  match sizes, shown.numbers .zero with
  | [_], [_] => 1
  | _, _ =>
      let regular := sizes.filterMap fun f ↦ f.filter (·.kind = .regular)
      let total := regular.foldl (fun n f ↦ n + f.size) 0
      let least := if sizes.any fun f ↦ f.any (·.kind ≠ .regular) then 7 else 1
      max (digitsIn 10 total).length least

/-- A row of counts. -/
def countRow (shown : ShownCounts) (width : Nat) (n : Counts) (name : Option String) : Bytes :=
  let numbers := (shown.numbers n).map (padded width)
  let name :=
    match name with
    | some name => 32 :: encode (if name.contains '\n' then shownName name else name)
    | none => []
  (numbers.intersperse [32]).flatten ++ name ++ [10]

/-- Writes a row at once; of a failure only that of a stream that is not open gives a
reason. -/
def Call.putRow (c : Call) (row : Bytes) : Action Unit := do
  match ← write 1 row with
  | none => return ()
  | some e =>
      c.die 1 (if e = .badDescriptor then s!"write error: {e.text}" else "write error")

/-- The program `wc`. -/
def wcMain (c : Call) : Action Nat := do
  let a ← c.read [.flag 'c' "bytes", .flag 'm' "chars", .flag 'l' "lines",
    .flag 'L' "max-line-length", .flag 'w' "words", (Choice.word "files0-from").valued,
    (Choice.word "total").valued.among [["auto"], ["always"], ["only"], ["never"]]] 1
  let shown : ShownCounts :=
    ⟨a.has "l", a.has "w", a.has "m", a.has "c", a.has "L"⟩
  let shown := if shown.numbers .zero = [] then ⟨true, true, false, true, false⟩ else shown
  let total := (a.value? "total").getD "auto"
  let paths := orInput a.operands
  let mut sizes : List (Option Facts) := []
  for path in paths do
    let f ← if path = "-" then facts (.factsOf 0) else facts (.facts path true)
    sizes := sizes ++ [f.toOption]
  let width := if total == "only" then 1 else numberWidth shown sizes
  let mut sum := Counts.zero
  let mut code := 0
  for path in paths do
    if path = "" then
      c.warn "invalid zero-length file name"
      code := 1
      continue
    match ← openOperand path with
    | .error e =>
        c.warn s!"{shownName path}: {e.text}"
        code := 1
    | .ok fd =>
        let (n, e) ← countInput shown fd
        if let some e := e then
          let called := if a.operands.isEmpty then quotedName "standard input" else shownName path
          c.warn s!"{called}: {e.text}"
          code := 1
        closeOperand path fd
        let name := if a.operands.isEmpty then none else some path
        if total != "only" then c.putRow (countRow shown width n name)
        sum := sum.add n
  if total == "always" || total == "only" || total == "auto" && 1 < paths.length then
    c.putRow (countRow shown width sum (if total == "only" then none else some "total"))
  c.closeInput a.operands "-" code

end PipeShell.Userland

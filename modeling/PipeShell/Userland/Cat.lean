import PipeShell.Userland.Options
import PipeShell.Userland.Characters

/-!
# Joining files

The program `cat`.  Without options the input is passed on as it comes; with
them, a state is carried from byte to byte and from file to file.
-/

namespace PipeShell.Userland

open PipeShell.Userland.Action

/-- How `cat` changes what it passes on. -/
structure CatStyle where
  numbered : Bool
  /-- Whether empty lines are left out of the numbers. -/
  numbersText : Bool
  endsShown : Bool
  squeezed : Bool
  tabsShown : Bool
  controlsShown : Bool
  deriving DecidableEq, Repr

/-- Where a `cat` stands in its lines. -/
structure CatState where
  /-- The number of the last line that has one. -/
  line : Nat
  /-- The line feeds passed since the last other byte; less by one where that one
  did not end an empty line. -/
  feeds : Int
  /-- Whether a carriage return waits for what follows it. -/
  waiting : Bool
  deriving DecidableEq, Repr

namespace CatStyle

/-- Whether anything is changed at all. -/
def isPlain (style : CatStyle) : Bool :=
  !style.numbered && !style.endsShown && !style.squeezed && !style.tabsShown &&
    !style.controlsShown

/-- How a byte other than a line feed is shown. -/
def showByte (style : CatStyle) (b : UInt8) : Bytes :=
  if b == 9 then (if style.tabsShown then [0x5E, 0x49] else [9])
  else if !style.controlsShown then [b]
  else
    let low := b &&& 0x7F
    let high : Bytes := if b < 128 then [] else [0x4D, 0x2D]
    high ++ (if low < 32 then [0x5E, low + 64] else if low == 127 then [0x5E, 0x3F] else [low])

/-- The number in front of the next line. -/
def label (s : CatState) : Bytes × CatState :=
  (padded 6 (s.line + 1) ++ [9], { s with line := s.line + 1 })

/-- What is written for a line feed. -/
def feed (style : CatStyle) (s : CatState) : Bytes × CatState :=
  let feeds := min (s.feeds + 1) 2
  let s := { s with feeds }
  if style.squeezed && feeds = 2 then ([], s)
  else
    let (label, s) :=
      if 0 < feeds && style.numbered && !style.numbersText then CatStyle.label s else ([], s)
    let ending : Bytes :=
      if style.endsShown then (if s.waiting then [0x5E, 0x4D] else []) ++ [0x24, 10] else [10]
    (label ++ ending, { s with waiting := false })

/-- What is written for a byte. -/
def byte (style : CatStyle) (s : CatState) (b : UInt8) : Bytes × CatState :=
  if b == 10 then style.feed s
  else
    let late : Bytes := if s.waiting then [13] else []
    let (label, s) := if 0 ≤ s.feeds && style.numbered then CatStyle.label s else ([], s)
    let s := { s with feeds := -1, waiting := false }
    if b == 13 && style.endsShown && !style.controlsShown then
      (late ++ label, { s with waiting := true })
    else (late ++ label ++ style.showByte b, s)

/-- What is written for some bytes. -/
def bytes (style : CatStyle) (s : CatState) (data : Bytes) : Bytes × CatState :=
  let step (state : List Bytes × CatState) (b : UInt8) : List Bytes × CatState :=
    let (out, s) := style.byte state.2 b
    (out :: state.1, s)
  let (out, s) := data.foldl step ([], s)
  (out.reverse.flatten, s)

end CatStyle

/-- Whether a file to be read is the one that is written to, so that reading it
would have no end. -/
def readsItself (fd : Descriptor) : Action Bool := do
  match ← facts (.factsOf 1), ← facts (.factsOf fd), ← number (.place fd) with
  | .ok target, .ok source, .ok place =>
      return target.kind = .regular && source.kind = .regular && target.number = source.number &&
        place < source.size
  | _, _, _ => return false

/-- Passes on one file. -/
def catFile (c : Call) (style : CatStyle) (s : CatState) (path : String) :
    Action (CatState × Bool) := do
  match ← openOperand path with
  | .error e => c.warn s!"{shownName path}: {e.text}"; return (s, false)
  | .ok fd =>
      if ← readsItself fd then
        c.warn s!"{shownName path}: input file is output file"
        closeOperand path fd
        return (s, false)
      let pass (s : CatState) (piece : Bytes) : Action (CatState × Bool) := do
        let (out, s) := if style.isPlain then (piece, s) else style.bytes s piece
        c.put out
        return (s, false)
      let (s, e) ← forPieces fd pieceSize pass pieceLimit s
      if let some e := e then c.warn s!"{shownName path}: {e.text}"
      closeOperand path fd
      return (s, e.isNone)

/-- The options of `cat`. -/
def catChoices : List Choice :=
  [.flag 'b' "number-nonblank", .flag 'n' "number", .flag 's' "squeeze-blank",
    .flag 'v' "show-nonprinting", .flag 'E' "show-ends", .flag 'T' "show-tabs", .flag 'A' "show-all",
    .letter 'e', .letter 't', .letter 'u']

/-- The program `cat`. -/
def catMain (c : Call) : Action Nat := do
  let a ← c.read catChoices 1
  let has (keys : List String) : Bool := keys.any a.has
  let style : CatStyle :=
    ⟨has ["b", "n"], has ["b"], has ["A", "e", "E"], has ["s"], has ["A", "t", "T"],
      has ["A", "e", "t", "v"]⟩
  if let .error e ← facts (.factsOf 1) then
    c.warn s!"standard output: {e.text}"
    return 1
  let mut state : CatState := ⟨0, 0, false⟩
  let mut code := 0
  for path in orInput a.operands do
    let (s, good) ← catFile c style state path
    state := s
    if !good then code := 1
  if state.waiting then c.put [13]
  c.closeInput a.operands "closing standard input" code

end PipeShell.Userland

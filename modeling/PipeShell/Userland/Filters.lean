import PipeShell.Userland.Options
import PipeShell.Userland.Characters

/-!
# Passing on in another order or to several places

The programs `tac`, `tee` and `yes`.
-/

namespace PipeShell.Userland

open PipeShell.Userland.Action

/-- The records of a text from the last to the first.  A separator belongs to
the record in front of it or, where `before` is set, to the one behind it. -/
def reversedRecords (separator : Bytes) (before : Bool) (data : Bytes) : List Bytes :=
  let start := separator.reverse
  let rec go (record : Bytes) (text : Bytes) (skip : Nat) : List Bytes :=
    match text, skip with
    | [], _ => [record]
    | b :: rest, skip + 1 => go (b :: record) rest skip
    | b :: rest, 0 =>
        if start.isPrefixOf (b :: rest) then
          if before then
            (separator ++ record) :: go [] (rest.drop (separator.length - 1)) 0
          else record :: go [b] rest (separator.length - 1)
        else go (b :: record) rest 0
  termination_by text.length
  go [] data.reverse 0

/-- The program `tac`. -/
def tacMain (c : Call) : Action Nat := do
  let a ← c.read [.flag 'b' "before", .flag 'r' "regex", (Choice.flag 's' "separator").valued] 1
  let separator := encode ((a.value? "s").getD "\n")
  let separator := if separator.isEmpty then [0] else separator
  let mut code := 0
  let mut out : List Bytes := []
  for path in orInput a.operands do
    match ← openOperand path with
    | .error e =>
        c.warn s!"failed to open {quotedName path} for reading: {e.text}"
        code := 1
    | .ok fd =>
        let name := if path = "-" then quotedName "standard input" else shownName path
        match ← facts (.factsOf fd) with
        | .ok f =>
            if f.kind = .directory then
              c.warn s!"{name}: read error: {Errno.invalid.text}"
              code := 1
            else
              if f.kind = .regular then perform (.seek fd 0)
              let (data, e) ← readAll fd
              if let some e := e then
                c.warn s!"{name}: read error: {e.text}"
                code := 1
              out := (reversedRecords separator (a.has "b") data).flatten :: out
        | .error e =>
            c.warn s!"{name}: read error: {e.text}"
            code := 1
        closeOperand path fd
  c.put out.reverse.flatten
  c.closeInput a.operands "-" code

/-- Writes a piece to every output, and tells which of them are still good. -/
def teePiece (c : Call) (piece : Bytes) :
    List (Descriptor × String) → Action (List (Descriptor × String) × Bool)
  | [] => return ([], false)
  | (fd, name) :: rest => do
      let e ← write fd piece
      if let some e := e then c.warn s!"{name}: {e.text}"
      let (kept, failed) ← teePiece c piece rest
      return (if e.isSome then kept else (fd, name) :: kept, failed || e.isSome)

/-- The program `tee`. -/
def teeMain (c : Call) : Action Nat := do
  let modes := [["warn"], ["warn-nopipe"], ["exit"], ["exit-nopipe"]]
  let a ← c.read [.flag 'a' "append", .flag 'i' "ignore-interrupts", .letter 'p',
    (Choice.word "output-error").maybeValued.among modes] 1
  let mut outputs := [(1, quotedName "standard output")]
  let mut code := 0
  for path in a.operands do
    match ← number (.openFile path (if a.has "a" then .append 0o666 else .write 0o666)) with
    | .ok fd => outputs := outputs ++ [(← awayFromStreams fd, shownName path)]
    | .error e =>
        c.warn s!"{shownName path}: {e.text}"
        code := 1
  let pass (state : List (Descriptor × String) × Bool) (piece : Bytes) :
      Action ((List (Descriptor × String) × Bool) × Bool) := do
    let (kept, failed) ← teePiece c piece state.1
    return ((kept, state.2 || failed), kept.isEmpty)
  let ((_, failed), e) ← forPieces 0 8192 pass pieceLimit (outputs, false)
  if let some e := e then
    c.warn s!"read error: {e.text}"
    code := 1
  c.closeInput [] "standard input" (if failed then 1 else code)

/-- The program `yes`. -/
def yesMain (c : Call) : Action Nat := do
  let a ← c.readInFront [] 1
  let line := encode (" ".intercalate (if a.operands.isEmpty then ["y"] else a.operands) ++ "\n")
  let block := (List.replicate (1024 / line.length + 1) line).flatten
  fun next ↦
    .flood 1 block fun e ↦
      (c.die 1 s!"standard output: {e.text}" : Action Nat) next

end PipeShell.Userland

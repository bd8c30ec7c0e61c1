import PipeShell.System.Program

/-!
# Actions

A program is written as a row of actions.  An action is what is done before the
program goes on with a value, so that requests, tests and loops can be put one
behind the other as they come.  An action that ends the program never goes on.
-/

namespace PipeShell.Userland

/-- Part of a program that goes on with a value. -/
def Action (α : Type) : Type :=
  (α → Program) → Program

namespace Action

variable {α β : Type}

instance : Monad Action where
  pure a next := next a
  bind x f next := x fun a ↦ f a next

/-- The program that does this and ends with the code given. -/
def toProgram (x : Action Nat) : Program :=
  x .exit

/-- Ends the program. -/
def stop (code : Nat) : Action α :=
  fun _ ↦ .exit code

/-- Makes a request. -/
def ask (r : Request) : Action Reply :=
  fun next ↦ .call r next

/-- Makes a request of which only a refusal matters. -/
def request (r : Request) : Action (Option Errno) := do
  match ← ask r with
  | .failed e => return some e
  | _ => return none

/-- Makes a request and goes on whether or not it is granted. -/
def perform (r : Request) : Action Unit := do
  let _ ← ask r

/-- Makes a request that is answered with a number. -/
def number (r : Request) : Action (Except Errno Nat) := do
  match ← ask r with
  | .done n => return .ok n
  | .failed e => return .error e
  | _ => return .error .invalid

/-- Makes a request that is answered with what is known of a file. -/
def facts (r : Request) : Action (Except Errno Facts) := do
  match ← ask r with
  | .facts f => return .ok f
  | .failed e => return .error e
  | _ => return .error .invalid

/-- Makes a request that is answered with names. -/
def names (r : Request) : Action (Except Errno (List String)) := do
  match ← ask r with
  | .names entries => return .ok entries
  | .failed e => return .error e
  | _ => return .error .invalid

/-- Writes all the bytes. -/
def write (fd : Descriptor) (data : Bytes) : Action (Option Errno) :=
  fun next ↦ .put fd data next

/-- Writes a text and goes on whether or not it can be written. -/
def tell (fd : Descriptor) (text : String) : Action Unit := do
  let _ ← write fd (encode text)

/-- The number of bytes read at a time. -/
def pieceSize : Nat := 65536

/-- Reads to the end, and tells what kept it from getting there. -/
def readAll (fd : Descriptor) : Action (Bytes × Option Errno) :=
  fun next ↦
    .pump fd pieceSize fd (fun state piece ↦ ⟨(0, state.2 ++ piece), [], false⟩) (0, [])
      fun state e ↦ next (state.2, e)

/-- Starts a second process. -/
def fork (child : Program) : Action Pid :=
  fun next ↦ .fork child next

/-- The number of pieces that are read at most: more than any input has. -/
def pieceLimit : Nat := 0x1000000000000000

/-- Feeds what is read to a function, piece by piece, until the input is at its
end or the function says that it is done. -/
def forPieces {σ : Type} (fd : Descriptor) (size : Nat) (f : σ → Bytes → Action (σ × Bool)) :
    Nat → σ → Action (σ × Option Errno)
  | 0, s => return (s, none)
  | left + 1, s => do
      match ← ask (.read fd size) with
      | .data [] => return (s, none)
      | .data piece =>
          match ← f s piece with
          | (s, true) => return (s, none)
          | (s, false) => forPieces fd size f left s
      | .failed e => return (s, some e)
      | _ => return (s, none)

/-- The records that a byte ends, each with that byte, and what is left behind
the last of them.  `begun` is what has been read of the first one. -/
def cutRecords (terminator : UInt8) (begun : Bytes) (data : Bytes) : List Bytes × Bytes :=
  let step (state : List Bytes × Bytes) (b : UInt8) : List Bytes × Bytes :=
    if b == terminator then ((b :: state.2).reverse :: state.1, []) else (state.1, b :: state.2)
  let (records, rest) := data.foldl step ([], begun.reverse)
  (records.reverse, rest.reverse)

/-- Goes through records until the function says that it is done. -/
def throughRecords {σ : Type} (f : σ → Bytes → Action (σ × Bool)) :
    σ → List Bytes → Action (σ × Bool)
  | s, [] => return (s, false)
  | s, record :: rest => do
      match ← f s record with
      | (s, true) => return (s, true)
      | (s, false) => throughRecords f s rest

/-- Feeds what is read to a function, record by record.  The last record may lack
the byte that ends one. -/
def forRecords {σ : Type} (fd : Descriptor) (terminator : UInt8)
    (f : σ → Bytes → Action (σ × Bool)) (s : σ) : Action (σ × Option Errno) := do
  let digest (state : σ × Bytes × Bool) (piece : Bytes) : Action ((σ × Bytes × Bool) × Bool) := do
    let (records, rest) := cutRecords terminator state.2.1 piece
    let (s, done) ← throughRecords f state.1 records
    return ((s, rest, done), done)
  let ((s, rest, done), e) ← forPieces fd pieceSize digest pieceLimit (s, [], false)
  if done || rest.isEmpty then return (s, e)
  let (s, _) ← f s rest
  return (s, e)

end Action

/-- How a program was called. -/
structure Call where
  name : String
  args : List String
  environment : Environment

namespace Call

open PipeShell.Userland.Action

variable {α : Type}

/-- The call that arguments stand for, the first of which is the name. -/
def ofArguments (args : List String) (environment : Environment) : Call :=
  ⟨args.headD "", args.drop 1, environment⟩

/-- Says something on standard error. -/
def warn (c : Call) (text : String) : Action Unit :=
  tell 2 s!"{c.name}: {text}\n"

/-- Says something on standard error and ends. -/
def die (c : Call) (code : Nat) (text : String) : Action α := do
  c.warn text
  stop code

/-- Points to the help and ends. -/
def seeHelp (c : Call) (code : Nat) : Action α := do
  tell 2 s!"Try '{c.name} --help' for more information.\n"
  stop code

/-- Says what is wrong with the arguments and ends. -/
def misuse (c : Call) (code : Nat) (text : String) : Action α := do
  c.warn text
  c.seeHelp code

/-- Writes to standard output; if that fails, the program says what has failed
and ends. -/
def putOr (c : Call) (code : Nat) (what : String) (data : Bytes) : Action Unit := do
  match ← write 1 data with
  | none => return ()
  | some e => c.die code s!"{what}: {e.text}"

/-- Writes to standard output; if that fails, the program ends. -/
def put (c : Call) (data : Bytes) : Action Unit :=
  c.putOr 1 "write error" data

/-- Writes a text to standard output; if that fails, the program ends. -/
def say (c : Call) (text : String) : Action Unit :=
  c.put (encode text)

end Call

/-- Opens an operand for reading; `-` stands for standard input. -/
def openOperand (path : String) : Action (Except Errno Descriptor) :=
  if path = "-" then return .ok 0 else Action.number (.openFile path .read)

/-- Gives a descriptor that has the number of a standard stream another one. -/
def awayFromStreams (fd : Descriptor) : Action Descriptor := do
  if 2 < fd then return fd
  match ← Action.number (.keep fd 3) with
  | .ok away =>
      Action.perform (.close fd)
      return away
  | .error _ => return fd

/-- Closes what has been opened for an operand. -/
def closeOperand (path : String) (fd : Descriptor) : Action Unit :=
  if path = "-" then return () else Action.perform (.close fd)

/-- The operands, or standard input if there are none. -/
def orInput (operands : List String) : List String :=
  if operands.isEmpty then ["-"] else operands

/-- Gives up standard input if an operand stands for it.  If it has never been open, that
is told under a name; the answer is the code that the program ends with. -/
def Call.closeInput (c : Call) (operands : List String) (name : String) (code : Nat) :
    Action Nat := do
  if !(orInput operands).contains "-" then return code
  match ← Action.facts (.factsOf 0) with
  | .ok _ => return code
  | .error e =>
      c.warn s!"{name}: {e.text}"
      return 1

end PipeShell.Userland

import PipeShell.Failure
import PipeShell.System.World

/-!
# Diagnostics

What the shell itself has to say goes to its standard error or is kept in
memory.  What is kept may have a limit; of a text that exceeds it the part that
fits is kept, and the writing fails.
-/

namespace PipeShell

/-- Where diagnostics go. -/
inductive Diagnostics where
  | standardError
  /-- The bytes kept so far, and how many more there is room for. -/
  | kept (bytes : Bytes) (room : Option Nat)
  deriving DecidableEq, Repr

namespace Diagnostics

/-- Diagnostics kept in memory without a limit. -/
def unlimited : Diagnostics :=
  .kept [] none

/-- Diagnostics of which this many bytes are kept. -/
def limited (room : Nat) : Diagnostics :=
  .kept [] (some room)

/-- The bytes kept. -/
def bytes : Diagnostics → Bytes
  | .standardError => []
  | .kept bytes _ => bytes

/-- Takes the bytes kept out, which makes no room. -/
def take : Diagnostics → Bytes × Diagnostics
  | .standardError => ([], .standardError)
  | .kept bytes room => (bytes, .kept [] room)

/-- The failure of a limit reached. -/
def full : Failure :=
  .ofText "diagnostics sink is full"

/-- What comes of a write to standard error.  One that is not there takes
everything. -/
def outcome : WriteReply → Except Failure Unit
  | .wrote _ => .ok ()
  | .blocked => .ok ()
  | .broken => .error (.ofText (FileError.refused .brokenPipe).message)
  | .failed e =>
      if e = .badDescriptor then .ok ()
      else .error (.ofText (FileError.refused e).message)

/-- Writes a text. -/
def write (d : Diagnostics) (w : World) (text : String) :
    Except Failure Unit × Diagnostics × World :=
  let new := encode text
  match d with
  | .kept bytes none => (.ok (), .kept (bytes ++ new) none, w)
  | .kept bytes (some room) =>
      let result := if new.length ≤ room then .ok () else .error full
      (result, .kept (bytes ++ new.take room) (some (room - new.length)), w)
  | .standardError =>
      let (reply, w) := w.write 2 new
      (outcome reply, d, w)

end Diagnostics

end PipeShell

import PipeShell.Failure
import PipeShell.Text.Utf8

/-!
# Sources of lines

A line source is asked for one line at a time.  Each reading gives a line
without its terminator, says that the input is at its end, or fails.
-/

namespace PipeShell

/-- What one reading from a line source gives. -/
inductive LineReading where
  | line (bytes : Bytes)
  | endOfInput
  | failure (cause : Failure)
  deriving DecidableEq, Repr

/-- Sources of lines, by their state. -/
class LineSource (σ : Type u) where
  readLine : σ → LineReading × σ

/-- Readings laid down in advance, one for each call; behind the last of them
the input is at its end.  `taken` counts the calls made. -/
structure Readings where
  remaining : List LineReading
  taken : Nat

namespace Readings

/-- Readings of which none has been taken. -/
def ofList (readings : List LineReading) : Readings :=
  ⟨readings, 0⟩

/-- Takes the next reading. -/
def readLine : Readings → LineReading × Readings
  | ⟨[], taken⟩ => (.endOfInput, ⟨[], taken + 1⟩)
  | ⟨r :: rest, taken⟩ => (r, ⟨rest, taken + 1⟩)

instance : LineSource Readings := ⟨readLine⟩

end Readings

end PipeShell

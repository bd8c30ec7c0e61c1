import PipeShell.Line.Source

/-!
# Lines out of bytes

Bytes arrive in pieces of any size.  `BufferedLines` gathers them up to each
line feed, keeping what was read too far for the next line.  A line loses its
line feed and then one carriage return; a last line without a line feed is
given as it stands.  A read that is interrupted is made again, and a failing
one loses the part of the line gathered before it.
-/

namespace PipeShell

/-- What one read from a source of bytes gives; no bytes mean the end. -/
inductive ByteReading where
  | data (bytes : Bytes)
  | interrupted
  | failure (message : String)
  deriving DecidableEq, Repr

/-- Whether a reader goes on after a read: it does unless the read was at the
end or failed. -/
def ByteReading.GoesOn : ByteReading → Prop
  | .data bytes => bytes ≠ []
  | .interrupted => True
  | .failure _ => False

/-- Sources of bytes, by their state.  A source cannot go on for ever: there is
a measure that every read with which a reader goes on makes smaller. -/
class ByteSource (ρ : Type u) where
  /-- One read of at most so many bytes. -/
  read : ρ → Nat → ByteReading × ρ
  remaining : ρ → Nat
  remaining_read : ∀ s n, (read s n).1.GoesOn → remaining (read s n).2 < remaining s

/-- Byte readings laid down in advance.  A read takes at most as many bytes as
it asks for and leaves the rest to the next; behind the last reading the source
is at its end. -/
structure Arrivals where
  readings : List ByteReading

namespace Arrivals

/-- The next read of at most `limit` bytes. -/
def read : Arrivals → Nat → ByteReading × Arrivals
  | ⟨[]⟩, _ => (.data [], ⟨[]⟩)
  | ⟨.data bytes :: rest⟩, limit =>
      if bytes.length ≤ limit then (.data bytes, ⟨rest⟩)
      else (.data (bytes.take limit), ⟨.data (bytes.drop limit) :: rest⟩)
  | ⟨other :: rest⟩, _ => (other, ⟨rest⟩)

/-- The size of a reading: its bytes, and one for itself. -/
def weight : ByteReading → Nat
  | .data bytes => bytes.length + 1
  | _ => 1

/-- The size of what has not arrived yet. -/
def remaining (s : Arrivals) : Nat :=
  s.readings.foldr (weight · + ·) 0

theorem remaining_read (s : Arrivals) (limit : Nat) (h : (s.read limit).1.GoesOn) :
    (s.read limit).2.remaining < s.remaining := by
  match s with
  | ⟨[]⟩ => simp [read, ByteReading.GoesOn] at h
  | ⟨.data bytes :: rest⟩ =>
      by_cases hfit : bytes.length ≤ limit
      · simp [read, hfit, remaining, weight]
      · have hpos : limit ≠ 0 := by
          rintro rfl
          simp [read, hfit, ByteReading.GoesOn] at h
        simp only [read, hfit, if_false, remaining, weight, List.foldr_cons, List.length_drop]
        omega
  | ⟨.interrupted :: rest⟩ => simp [read, remaining, weight]
  | ⟨.failure _ :: rest⟩ => simp [read, ByteReading.GoesOn] at h

instance : ByteSource Arrivals := ⟨read, remaining, remaining_read⟩

end Arrivals

/-- The byte that ends a line. -/
def lineFeed : UInt8 := 10

/-- A source of bytes and the bytes read from it that belong to later lines. -/
structure BufferedLines (ρ : Type u) where
  source : ρ
  buffer : Bytes
  capacity : Nat

namespace BufferedLines

variable {ρ : Type u}

/-- A reader of lines that has read nothing, with room for `capacity` bytes. -/
def ofSource (source : ρ) (capacity : Nat) : BufferedLines ρ :=
  ⟨source, [], capacity⟩

/-- Reads up to the next line feed, or to the end, and puts it behind what has
been gathered. -/
def readThrough [ByteSource ρ] (s : BufferedLines ρ) (gathered : Bytes) :
    Except String Bytes × BufferedLines ρ :=
  match s.buffer.span (· != lineFeed) with
  | (piece, feed :: rest) => (.ok (gathered ++ piece ++ [feed]), { s with buffer := rest })
  | (piece, []) =>
      match _h : ByteSource.read s.source s.capacity with
      | (.data [], source) => (.ok (gathered ++ piece), ⟨source, [], s.capacity⟩)
      | (.data (b :: bytes), source) =>
          readThrough ⟨source, b :: bytes, s.capacity⟩ (gathered ++ piece)
      | (.interrupted, source) => readThrough ⟨source, [], s.capacity⟩ (gathered ++ piece)
      | (.failure message, source) => (.error message, ⟨source, [], s.capacity⟩)
termination_by ByteSource.remaining s.source
decreasing_by
  all_goals
    have hread := ByteSource.remaining_read s.source s.capacity
    rw [_h] at hread
    exact hread (by simp [ByteReading.GoesOn])

/-- Drops a line feed at the end, and then one carriage return. -/
def stripTerminator (line : Bytes) : Bytes :=
  if line.getLast? = some lineFeed then
    let body := line.dropLast
    if body.getLast? = some 13 then body.dropLast else body
  else line

/-- Reads the next line. -/
def readLine [ByteSource ρ] (s : BufferedLines ρ) : LineReading × BufferedLines ρ :=
  match s.readThrough [] with
  | (.ok [], rest) => (.endOfInput, rest)
  | (.ok line, rest) => (.line (stripTerminator line), rest)
  | (.error message, rest) =>
      (.failure ((Failure.ofText message).within "unable to read input line"), rest)

instance [ByteSource ρ] : LineSource (BufferedLines ρ) := ⟨readLine⟩

end BufferedLines

end PipeShell

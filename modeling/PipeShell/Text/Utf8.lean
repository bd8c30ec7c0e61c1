/-!
# Bytes and UTF-8

Lines arrive as bytes and are read as text.  `Utf8.decode?` reads a whole
string of bytes, one byte at a time, and accepts exactly the well-formed
sequences: no overlong form, no surrogate, nothing above U+10FFFF and nothing
cut short.  The machine carries the range its next byte must lie in, so what
it has read of one character never depends on the characters before.
-/

namespace PipeShell

/-- A string of bytes, as files, pipes and lines hold it. -/
abbrev Bytes := List UInt8

/-- The UTF-8 form of a text. -/
def encode (text : String) : Bytes :=
  text.toUTF8.toList

namespace Utf8

/-- A character of which some bytes have been read: the value gathered so far,
the number of bytes still missing, and the range of the next one. -/
structure Unfinished where
  value : Nat
  missing : Nat
  least : UInt8
  greatest : UInt8

/-- Where decoding stands between two bytes. -/
inductive State where
  /-- Between two characters. -/
  | between (text : String)
  /-- Inside a character. -/
  | inside (text : String) (char : Unfinished)
  /-- A byte has been met that no well-formed sequence can hold there. -/
  | broken

/-- The first byte of a character decides its length and, where a shorter form
or no character at all would be spelled, narrows the range of the second. -/
def State.lead (text : String) (b : UInt8) : State :=
  if b < 0x80 then .between (text.push (Char.ofNat b.toNat))
  else if b < 0xC2 then .broken
  else if b < 0xE0 then .inside text ⟨b.toNat - 0xC0, 1, 0x80, 0xBF⟩
  else if b == 0xE0 then .inside text ⟨0, 2, 0xA0, 0xBF⟩
  else if b == 0xED then .inside text ⟨0xD, 2, 0x80, 0x9F⟩
  else if b < 0xF0 then .inside text ⟨b.toNat - 0xE0, 2, 0x80, 0xBF⟩
  else if b == 0xF0 then .inside text ⟨0, 3, 0x90, 0xBF⟩
  else if b < 0xF4 then .inside text ⟨b.toNat - 0xF0, 3, 0x80, 0xBF⟩
  else if b == 0xF4 then .inside text ⟨4, 3, 0x80, 0x8F⟩
  else .broken

/-- A later byte adds six bits, and completes the character if it is the last
one missing. -/
def State.follow (text : String) (char : Unfinished) (b : UInt8) : State :=
  if char.least ≤ b && b ≤ char.greatest then
    let value := char.value * 64 + b.toNat % 64
    if char.missing ≤ 1 then .between (text.push (Char.ofNat value))
    else .inside text ⟨value, char.missing - 1, 0x80, 0xBF⟩
  else .broken

/-- Reads one byte. -/
def State.step : State → UInt8 → State
  | .between text, b => State.lead text b
  | .inside text char, b => State.follow text char b
  | .broken, _ => .broken

/-- The text of a string of bytes, if they are well-formed UTF-8. -/
def decode? (bytes : Bytes) : Option String :=
  match bytes.foldl State.step (.between "") with
  | .between text => some text
  | _ => none

end Utf8

/-- The name that bytes spell.  If they are not well-formed UTF-8, each of them is
taken for a character. -/
def nameOfBytes (bytes : Bytes) : String :=
  (Utf8.decode? bytes).getD (String.ofList (bytes.map fun b ↦ Char.ofNat b.toNat))

end PipeShell

import PipeShell.Userland.Editor.Command

/-!
# Escapes in editing scripts

What a backslash makes of the bytes behind it in the text of a script, in a
pattern, in the text put in the place of a match, and in a translation.
-/

namespace PipeShell.Userland.Editor

/-- The number that at most so many digits stand for, as a byte; if there is no
digit the letter stands for itself. -/
def numberedByte (base count : Nat) (letter : UInt8) (text : Bytes) : UInt8 × Bytes :=
  let isDigitOf (b : UInt8) : Bool := (hexValue? b).any (· < base)
  let digits := (text.take count).takeWhile isDigitOf
  (if digits.isEmpty then letter else UInt8.ofNat (valueOf base digits), text.drop digits.length)

/-- The byte that the letters behind a backslash stand for, and what follows them;
`none` if they stand for no particular byte. -/
def escapedByte? (text : Bytes) : Option (UInt8 × Bytes) :=
  match text with
  | 0x61 :: rest => some (7, rest)
  | 0x66 :: rest => some (12, rest)
  | 0x6E :: rest => some (10, rest)
  | 0x72 :: rest => some (13, rest)
  | 0x74 :: rest => some (9, rest)
  | 0x76 :: rest => some (11, rest)
  | 0x63 :: 0x5C :: 0x5C :: rest => some (toUpper 0x5C ^^^ 0x40, rest)
  | 0x63 :: b :: rest => some (toUpper b ^^^ 0x40, rest)
  | 0x64 :: rest => some (numberedByte 10 3 0x64 rest)
  | 0x6F :: rest => some (numberedByte 8 3 0x6F rest)
  | 0x78 :: rest => some (numberedByte 16 2 0x78 rest)
  | _ => none

/-- A pattern with its escapes of bytes undone, and all others left. -/
def patternText : Nat → Bytes → Bytes
  | 0, text => text
  | limit + 1, text =>
      match text with
      | [] => []
      | [0x5C, 0x63] => [0x5C]
      | 0x5C :: rest =>
          match escapedByte? rest with
          | some (b, rest) => b :: patternText limit rest
          | none => 0x5C :: rest.take 1 ++ patternText limit (rest.drop 1)
      | b :: rest => b :: patternText limit rest

/-- A text with all its escapes undone, up to the line feed that ends it, and what
follows; `none` if it ends in the middle of an escape. -/
def plainEscapes : Nat → Bytes → Bytes × Option Bytes
  | 0, text => ([], some text)
  | limit + 1, text =>
      match text with
      | [] => ([], some [])
      | 10 :: rest => ([], some rest)
      | [0x5C] => ([], none)
      | 0x5C :: rest =>
          let (b, rest) := (escapedByte? rest).getD (rest.headD 0, rest.drop 1)
          let (more, rest) := plainEscapes limit rest
          (b :: more, rest)
      | b :: rest =>
          let (more, rest) := plainEscapes limit rest
          (b :: more, rest)

/-- The bytes in one half of a translation. -/
def translationText : Nat → Bytes → Bytes
  | 0, _ => []
  | limit + 1, text =>
      match text with
      | [] => []
      | [0x5C] => [0x5C]
      | 0x5C :: rest =>
          let (b, rest) := (escapedByte? rest).getD (rest.headD 0, rest.drop 1)
          b :: translationText limit rest
      | b :: rest => b :: translationText limit rest

/-! ## Replacements -/

/-- A replacement as far as it has been read. -/
structure Replacement where
  parts : List Part
  /-- The text read since the last part, the last byte first. -/
  text : Bytes
  casing : Casing
  first : Casing

namespace Replacement

/-- Ends a part; a change of one letter only is for that part. -/
def close (r : Replacement) (group : Option Nat) : Replacement :=
  let part : Part := ⟨r.text.reverse, group, r.casing, r.first⟩
  { r with parts := r.parts ++ [part], text := [], first := .same }

def add (r : Replacement) (b : UInt8) : Replacement :=
  { r with text := b :: r.text }

/-- Reads a replacement. -/
def read (r : Replacement) : Nat → Bytes → Replacement
  | 0, _ => r
  | limit + 1, text =>
      match text with
      | [] => r
      | [0x5C] => r.add 0x5C
      | 0x5C :: 0x4C :: rest => read { r.close none with casing := .lower } limit rest
      | 0x5C :: 0x55 :: rest => read { r.close none with casing := .upper } limit rest
      | 0x5C :: 0x45 :: rest => read { r.close none with casing := .same } limit rest
      | 0x5C :: 0x6C :: rest => read { r.close none with first := .lower } limit rest
      | 0x5C :: 0x75 :: rest => read { r.close none with first := .upper } limit rest
      | 0x5C :: b :: rest =>
          if isDigit b then read (r.close (some (b.toNat - 48))) limit rest
          else
            let (b, rest) := (escapedByte? (b :: rest)).getD (b, rest)
            read (r.add b) limit rest
      | 0x26 :: rest => read (r.close (some 0)) limit rest
      | b :: rest => read (r.add b) limit rest

/-- The parts of a replacement. -/
def partsOf (text : Bytes) : List Part :=
  let r := read ⟨[], [], .same, .same⟩ text.length text
  if r.text.isEmpty then r.parts else (r.close none).parts

end Replacement

/-- The greatest number of a group that is put into the place of a match. -/
def greatestGroup (parts : List Part) : Nat :=
  parts.foldl (fun n p ↦ max n (p.group.getD 0)) 0

end PipeShell.Userland.Editor

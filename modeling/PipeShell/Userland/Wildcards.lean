import PipeShell.Userland.Characters

/-!
# Patterns

A pattern is a text in which `*` stands for any text, `?` for any byte and a row in
brackets for one of the bytes in it; a backslash keeps the next byte from its
meaning.  A bracket that is not closed stands for itself.
-/

namespace PipeShell.Userland

/-- What may be in brackets. -/
inductive RowItem where
  | range (first last : UInt8)
  | named (name : String)

/-- A part of a pattern. -/
inductive PatternPart where
  | byte (b : UInt8)
  | anyByte
  | anyText
  | row (negated : Bool) (items : List RowItem)
  /-- Nothing matches. -/
  | never

namespace PatternPart

/-- The name of a class behind a bracket and a colon, and what follows it. -/
def className? (text : Bytes) : Option (String × Bytes) :=
  let name := text.takeWhile fun b ↦ 97 ≤ b && b < 122
  match text.drop name.length with
  | 0x3A :: 0x5D :: rest => some (nameOfBytes name, rest)
  | _ => none

/-- Adds a byte, or the range from it that the text goes on with. -/
def rangeFrom (first : UInt8) (text : Bytes) : Option (RowItem × Bytes) :=
  match text with
  | 0x2D :: 0x5D :: _ => some (.range first first, text)
  | 0x2D :: 0x5C :: last :: rest => some (.range first last, rest)
  | 0x2D :: last :: rest => some (.range first last, rest)
  | _ => some (.range first first, text)

/-- Reads what is in brackets up to the closing one; `begun` says whether something
has been read. -/
def rowItems (begun : Bool) : Nat → Bytes → Option (List RowItem × Bytes)
  | 0, _ => none
  | limit + 1, text => do
      let (item, rest) ←
        match text with
        | [] => none
        | 0x5D :: rest => if begun then return ([], rest) else rangeFrom 0x5D rest
        | 0x5C :: b :: rest => rangeFrom b rest
        | 0x5B :: 0x3A :: rest =>
            match className? rest with
            | some (name, rest) => some (.named name, rest)
            | none => rangeFrom 0x5B (0x3A :: rest)
        | 0x5B :: 0x3D :: b :: 0x3D :: 0x5D :: rest => some (.range b b, rest)
        | 0x5B :: 0x2E :: b :: 0x2E :: 0x5D :: rest => rangeFrom b rest
        | b :: rest => rangeFrom b rest
      let (items, rest) ← rowItems true limit rest
      return (item :: items, rest)

/-- Reads a pattern. -/
def ofText : Nat → Bytes → List PatternPart
  | limit + 1, b :: rest =>
      match b with
      | 0x2A => .anyText :: ofText limit rest
      | 0x3F => .anyByte :: ofText limit rest
      | 0x5C =>
          match rest with
          | [] => [.never]
          | c :: rest => .byte c :: ofText limit rest
      | 0x5B =>
          let (negated, inside) :=
            match rest with
            | 0x21 :: inside | 0x5E :: inside => (true, inside)
            | _ => (false, rest)
          match rowItems false (inside.length + 1) inside with
          | some (items, rest) => .row negated items :: ofText limit rest
          | none => .byte 0x5B :: ofText limit rest
      | _ => .byte b :: ofText limit rest
  | _, _ => []

/-- Whether a byte is in a row.  A class of an unknown name keeps any byte from being
in what follows. -/
def inRow (negated : Bool) (b : UInt8) : List RowItem → Bool
  | [] => negated
  | .range first last :: rest =>
      if first ≤ b && b ≤ last then !negated else inRow negated b rest
  | .named name :: rest =>
      match classOf? name with
      | some holds => if holds b then !negated else inRow negated b rest
      | none => false

/-- Whether something holds of a text or of one of its ends. -/
def anyEnd (holds : Bytes → Bool) : Bytes → Bool
  | [] => holds []
  | b :: rest => holds (b :: rest) || anyEnd holds rest

/-- Whether a text matches the parts of a pattern. -/
def matchAll : List PatternPart → Bytes → Bool
  | [], text => text.isEmpty
  | .anyText :: rest, text => anyEnd (matchAll rest) text
  | part :: rest, b :: text =>
      (match part with
        | .byte c => b == c
        | .row negated items => inRow negated b items
        | .never => false
        | _ => true) && matchAll rest text
  | _ :: _, [] => false

end PatternPart

/-- The parts of a pattern. -/
def patternParts (pattern : Bytes) : List PatternPart :=
  PatternPart.ofText (pattern.length + 1) pattern

/-- Whether a text matches a pattern. -/
def matchesPattern (pattern text : Bytes) : Bool :=
  PatternPart.matchAll (patternParts pattern) text

/-- A text without a beginning that matches a pattern. -/
def withoutFront (longest : Bool) (pattern text : Bytes) : Bytes :=
  let parts := patternParts pattern
  let lengths := List.range (text.length + 1)
  let lengths := if longest then lengths.reverse else lengths
  match lengths.find? fun n ↦ PatternPart.matchAll parts (text.take n) with
  | some n => text.drop n
  | none => text

/-- A text without an end that matches a pattern, if there is such an end. -/
def withoutBack? (longest : Bool) (pattern text : Bytes) : Option Bytes :=
  let parts := patternParts pattern
  let lengths := List.range (text.length + 1)
  let lengths := if longest then lengths else lengths.reverse
  (lengths.find? fun n ↦ PatternPart.matchAll parts (text.drop n)).map text.take

/-- A text without an end that matches a pattern. -/
def withoutBack (longest : Bool) (pattern text : Bytes) : Bytes :=
  (withoutBack? longest pattern text).getD text

/-- Whether a part of a path is a pattern: a row in brackets has to be closed behind
at least one byte. -/
def isPattern : Bytes → Bool
  | [] => false
  | 0x2A :: _ | 0x3F :: _ => true
  | 0x5C :: _ :: rest => isPattern rest
  | 0x5B :: rest => closes (if rest.head? == some 0x21 then rest.drop 1 else rest) || isPattern rest
  | _ :: rest => isPattern rest
where
  /-- Whether a closing bracket follows the next byte. -/
  closes : Bytes → Bool
    | 0x5C :: _ :: rest => rest.head? == some 0x5D || closes rest
    | _ :: rest => rest.head? == some 0x5D || closes rest
    | [] => false

/-- A text without the backslashes in front of other bytes. -/
def withoutBackslashes : Bytes → Bytes
  | 0x5C :: b :: rest => b :: withoutBackslashes rest
  | b :: rest => b :: withoutBackslashes rest
  | [] => []

end PipeShell.Userland

import PipeShell.Userland.Characters

/-!
# Regular expressions

Basic and extended expressions.  Of all matches that begin at the first possible
place the longest is taken; among matches of that length, earlier parts of the
expression take as much as they can.
-/

namespace PipeShell.Userland

/-- The places in a text that an expression can ask for. -/
inductive Boundary where
  | lineStart
  | lineEnd
  | textStart
  | textEnd
  | wordEdge
  | notWordEdge
  | wordStart
  | wordEnd
  deriving DecidableEq, Repr

/-- A regular expression. -/
inductive Regex where
  | empty
  /-- One byte in some ranges, or outside of them. -/
  | one (negated : Bool) (ranges : List (UInt8 × UInt8))
  | boundary (b : Boundary)
  /-- What is matched here is known by a number. -/
  | group (n : Nat) (r : Regex)
  /-- What a group has matched, again. -/
  | again (n : Nat)
  | both (r s : Regex)
  | either (r s : Regex)
  | times (r : Regex) (least : Nat) (most : Option Nat)
  deriving DecidableEq, Repr

/-- Why an expression is none. -/
inductive RegexError where
  | malformed
  | bracket
  | openParenthesis
  | closeParenthesis
  | brace
  | braceContent
  | rangeEnd
  | repetition
  | reference
  | backslash
  | className
  | collation
  | size
  deriving DecidableEq, Repr

def RegexError.message : RegexError → String
  | .malformed => "Invalid regular expression"
  | .bracket => "Unmatched [, [^, [:, [., or [="
  | .openParenthesis => "Unmatched ( or \\("
  | .closeParenthesis => "Unmatched ) or \\)"
  | .brace => "Unmatched \\\x7b"
  | .braceContent => "Invalid content of \\\x7b\\\x7d"
  | .rangeEnd => "Invalid range end"
  | .repetition => "Invalid preceding regular expression"
  | .reference => "Invalid back reference"
  | .backslash => "Trailing backslash"
  | .className => "Invalid character class name"
  | .collation => "Invalid collation character"
  | .size => "Regular expression too big"

namespace Regex

/-- How an expression is written and what it is matched with. -/
structure Style where
  extended : Bool
  ignoresCase : Bool
  /-- Whether lines of the text begin and end behind and before line feeds. -/
  byLines : Bool
  deriving DecidableEq, Repr

/-! ## Reading -/

/-- The ranges of the bytes that a predicate holds for. -/
def byteRanges (p : UInt8 → Bool) : List (UInt8 × UInt8) :=
  let step (b : UInt8) (ranges : List (UInt8 × UInt8)) : List (UInt8 × UInt8) :=
    if !p b then ranges
    else
      match ranges with
      | (first, last) :: rest => if b + 1 == first then (b, last) :: rest else (b, b) :: ranges
      | [] => [(b, b)]
  allByteValues.foldr step []

def inRanges (ranges : List (UInt8 × UInt8)) (b : UInt8) : Bool :=
  ranges.any fun r ↦ r.1 ≤ b && b ≤ r.2

/-- Ranges that hold a letter whichever case it has. -/
def anyCase (style : Style) (ranges : List (UInt8 × UInt8)) : List (UInt8 × UInt8) :=
  if style.ignoresCase then
    byteRanges fun b ↦ inRanges ranges (toLower b) || inRanges ranges (toUpper b)
  else ranges

/-- The expression of a single byte. -/
def byte (style : Style) (b : UInt8) : Regex :=
  .one false (anyCase style [(b, b)])

def isWordByte (b : UInt8) : Bool :=
  isAlnum b || b == 0x5F

/-- A name between two marks inside of brackets, and what follows it. -/
def bracketName (mark : UInt8) (text : Bytes) : Except RegexError (Bytes × Bytes) :=
  let rec go : Bytes → Bytes → Except RegexError (Bytes × Bytes)
    | name, a :: b :: rest =>
        if a == mark && b == 0x5D then .ok (name.reverse, rest) else go (a :: name) (b :: rest)
    | _, _ => .error .bracket
  go [] text

/-- A part of brackets: ranges or a single byte, and what follows it. -/
def bracketPart (text : Bytes) :
    Except RegexError ((List (UInt8 × UInt8) ⊕ UInt8) × Bytes) := do
  match text with
  | [] => throw .bracket
  | 0x5B :: 0x3A :: rest =>
      let (name, rest) ← bracketName 0x3A rest
      match classOf? (plainText name) with
      | some p => return (.inl (byteRanges p), rest)
      | none => throw .className
  | 0x5B :: 0x3D :: rest =>
      let (name, rest) ← bracketName 0x3D rest
      match name with
      | [b] => return (.inl [(b, b)], rest)
      | _ => throw .collation
  | 0x5B :: 0x2E :: rest =>
      let (name, rest) ← bracketName 0x2E rest
      match name with
      | [b] => return (.inr b, rest)
      | _ => throw .collation
  | b :: rest => return (.inr b, rest)

/-- The ranges of brackets, behind the opening one, and what follows them. -/
def brackets (first : Bool) (found : List (UInt8 × UInt8)) :
    Nat → Bytes → Except RegexError (List (UInt8 × UInt8) × Bytes)
  | 0, _ => .error .bracket
  | limit + 1, text => do
      match text with
      | [] => throw .bracket
      | 0x5D :: rest =>
          if !first then return (found, rest)
      | _ => pure ()
      let (part, rest) ← bracketPart text
      match part, rest with
      | part, 0x2D :: 0x5D :: _ =>
          let ranges := match part with
            | .inl ranges => ranges
            | .inr b => [(b, b)]
          brackets false (found ++ ranges) limit rest
      | .inr a, 0x2D :: rest => do
          let (last, rest) ← bracketPart rest
          match last with
          | .inr b =>
              if b < a then throw .rangeEnd
              brackets false (found ++ [(a, b)]) limit rest
          | .inl _ => throw .rangeEnd
      | .inl _, 0x2D :: _ => throw .rangeEnd
      | .inl ranges, rest => brackets false (found ++ ranges) limit rest
      | .inr b, rest => brackets false (found ++ [(b, b)]) limit rest

/-- A pair of brackets, behind the opening one. -/
def readBrackets (style : Style) (text : Bytes) : Except RegexError (Regex × Bytes) := do
  let negated := text.head? == some 0x5E
  let text := if negated then text.drop 1 else text
  if text.isEmpty then throw .malformed
  let (ranges, rest) ← brackets true [] (text.length + 1) text
  return (.one negated (anyCase style ranges), rest)

/-- The most that a part can be repeated. -/
def repetitionLimit : Nat := 32767

/-- The bounds of a repetition, behind the opening brace, and what follows it. -/
def readBounds (style : Style) (text : Bytes) :
    Except RegexError (Nat × Option Nat × Bytes) := do
  let close (text : Bytes) : Option Bytes :=
    match style.extended, text with
    | true, 0x7D :: rest => some rest
    | false, 0x5C :: 0x7D :: rest => some rest
    | _, _ => none
  /- What is wrong if the bounds are not closed here: they end later, or never. -/
  let unclosed (text : Bytes) : RegexError :=
    let ends (n : Nat) : Bool := text[n]? == some 0x2C || (close (text.drop n)).isSome
    if (List.range text.length).any ends then .braceContent else .brace
  let digits := text.takeWhile isDigit
  let rest := text.drop digits.length
  let least := valueOf 10 digits
  match close rest, rest with
  | some after, _ =>
      if digits.isEmpty then throw .braceContent
      if repetitionLimit < least then throw .size
      return (least, some least, after)
  | none, 0x2C :: more =>
      let digits := more.takeWhile isDigit
      match close (more.drop digits.length) with
      | some after =>
          if digits.isEmpty then
            if repetitionLimit < least then throw .size
            return (least, none, after)
          let most := valueOf 10 digits
          if most < least then throw .braceContent
          if repetitionLimit < most then throw .size
          return (least, some most, after)
      | none => throw (unclosed more)
  | none, _ => throw (unclosed rest)

/-- What stands at some place of an expression. -/
inductive Mark where
  | done
  | bar
  | opening
  | closing
  | star
  | plus
  | question
  | brace
  | other
  deriving DecidableEq, Repr

/-- The mark at the beginning of some text, and what follows it. -/
def mark (extended : Bool) (text : Bytes) : Mark × Bytes :=
  match text with
  | [] => (.done, [])
  | 0x2A :: rest => (.star, rest)
  | 0x5C :: b :: rest =>
      if extended then (.other, text)
      else
        match b with
        | 0x7C => (.bar, rest)
        | 0x28 => (.opening, rest)
        | 0x29 => (.closing, rest)
        | 0x2B => (.plus, rest)
        | 0x3F => (.question, rest)
        | 0x7B => (.brace, rest)
        | _ => (.other, text)
  | b :: rest =>
      if !extended then (.other, text)
      else
        match b with
        | 0x7C => (.bar, rest)
        | 0x28 => (.opening, rest)
        | 0x29 => (.closing, rest)
        | 0x2B => (.plus, rest)
        | 0x3F => (.question, rest)
        | 0x7B => (.brace, rest)
        | _ => (.other, text)

/-- What an expression is read with: the number of groups opened, and those that
are complete. -/
structure Reading where
  groups : Nat
  complete : List Nat

/-- The boundaries that letters behind a backslash stand for. -/
def escapedBoundary? (b : UInt8) : Option Boundary :=
  [(0x60, .textStart), (0x27, .textEnd), (0x62, .wordEdge), (0x42, .notWordEdge),
    (0x3C, .wordStart), (0x3E, .wordEnd)].lookup b

/-- The sets that letters behind a backslash stand for. -/
def escapedSet? (b : UInt8) : Option Regex :=
  [(0x77, .one false (byteRanges isWordByte)), (0x57, .one true (byteRanges isWordByte)),
    (0x73, .one false (byteRanges isSpace)), (0x53, .one true (byteRanges isSpace))].lookup b

mutual

/-- Reads alternatives, up to a closing parenthesis or the end; the number of open
parentheses is given. -/
def readAlternatives (style : Style) (depth : Nat) :
    Nat → Reading → Bytes → Except RegexError (Regex × Reading × Bytes)
  | 0, _, _ => .error .size
  | limit + 1, s, text => do
      let (first, s, rest) ← readBranch style depth limit s true .empty text
      match mark style.extended rest with
      | (.bar, more) => do
          let (second, s, rest) ← readAlternatives style depth limit s more
          return (.either first second, s, rest)
      | _ => return (first, s, rest)

/-- Reads parts in a row; `start` says whether a `^` is an anchor here. -/
def readBranch (style : Style) (depth : Nat) :
    Nat → Reading → Bool → Regex → Bytes → Except RegexError (Regex × Reading × Bytes)
  | 0, _, _, _, _ => .error .size
  | limit + 1, s, start, before, text => do
      let (m, rest) := mark style.extended text
      let goOn (s : Reading) (start : Bool) (r : Regex) (rest : Bytes) :
          Except RegexError (Regex × Reading × Bytes) :=
        readBranch style depth limit s start (if before = .empty then r else .both before r) rest
      match m with
      | .done | .bar => return (before, s, text)
      | .closing =>
          if depth = 0 then throw .closeParenthesis
          return (before, s, text)
      | .opening => do
          let n := s.groups + 1
          let (inner, after, rest) ←
            readAlternatives style (depth + 1) limit { s with groups := n } rest
          match mark style.extended rest with
          | (.closing, rest) => do
              let s : Reading := ⟨after.groups, n :: after.complete⟩
              let (r, rest) ← readRepetitions style limit (.group n inner) rest
              goOn s false r rest
          | _ => throw .openParenthesis
      | .star | .plus | .question =>
          if style.extended then throw .repetition
          let literal : UInt8 := if m = .star then 0x2A else if m = .plus then 0x2B else 0x3F
          let (r, rest) ← readRepetitions style limit (byte style literal) rest
          goOn s false r rest
      | .brace => throw .repetition
      | .other => do
          let single (r : Regex) (rest : Bytes) : Except RegexError (Regex × Reading × Bytes) := do
            let (r, rest) ← readRepetitions style limit r rest
            goOn s false r rest
          match text with
          | [] => return (before, s, text)
          | 0x5B :: rest => do
              let (r, rest) ← readBrackets style rest
              single r rest
          | 0x2E :: rest => single (.one true []) rest
          | 0x5E :: rest =>
              if style.extended || start then goOn s true (.boundary .lineStart) rest
              else single (byte style 0x5E) rest
          | 0x24 :: rest =>
              let (next, _) := mark style.extended rest
              if style.extended || next = .done || next = .bar || next = .closing then
                goOn s true (.boundary .lineEnd) rest
              else single (byte style 0x24) rest
          | [0x5C] => throw .backslash
          | 0x5C :: b :: rest =>
              match escapedBoundary? b, escapedSet? b with
              | some place, _ => goOn s true (.boundary place) rest
              | _, some set => single set rest
              | _, _ =>
                  if isDigit b && b != 48 then
                    let n := b.toNat - 48
                    if !s.complete.contains n then throw .reference
                    single (.again n) rest
                  else single (byte style b) rest
          | b :: rest => single (byte style b) rest

/-- Reads the repetitions behind a part.  Those of a basic expression do not follow
one another. -/
def readRepetitions (style : Style) :
    Nat → Regex → Bytes → Except RegexError (Regex × Bytes)
  | 0, _, _ => .error .size
  | limit + 1, r, text => do
      let (m, rest) := mark style.extended text
      let next ←
        match m with
        | .star => pure (some (Regex.times r 0 none, rest))
        | .plus => pure (some (.times r 1 none, rest))
        | .question => pure (some (.times r 0 (some 1), rest))
        | .brace =>
            let (least, most, rest) ← readBounds style rest
            pure (some (.times r least most, rest))
        | _ => pure none
      match next with
      | none => return (r, text)
      | some (r, rest) =>
          let (m, _) := mark style.extended rest
          if !style.extended && (m = .star || m = .brace) then throw .repetition
          readRepetitions style limit r rest

end

/-- Reads an expression; the number of its groups is told. -/
def read (style : Style) (text : Bytes) : Except RegexError (Regex × Nat) := do
  let (r, s, _) ← readAlternatives style 0 (4 * text.length + 8) ⟨0, []⟩ text
  return (r, s.groups)

/-! ## Matching -/

/-- A place in a text: what stands before it, the last byte first, and what
follows it. -/
structure Place where
  before : Bytes
  rest : Bytes

/-- What groups have matched; the latest of a group comes first. -/
abbrev Groups := List (Nat × Bytes)

/-- A match: what is left of the text, and what the groups have matched. -/
structure Match where
  rest : Bytes
  groups : Groups

/-- Whether a boundary is at a place. -/
def isAt (style : Style) (b : Boundary) (p : Place) : Bool :=
  let wordBefore := p.before.head?.any isWordByte
  let wordAfter := p.rest.head?.any isWordByte
  match b with
  | .textStart => p.before.isEmpty
  | .textEnd => p.rest.isEmpty
  | .lineStart => p.before.isEmpty || style.byLines && p.before.head? == some 10
  | .lineEnd => p.rest.isEmpty || style.byLines && p.rest.head? == some 10
  | .wordEdge => wordBefore != wordAfter
  | .notWordEdge => wordBefore == wordAfter
  | .wordStart => !wordBefore && wordAfter
  | .wordEnd => wordBefore && !wordAfter

/-- The longer of two matches; the first one, if they are equally long.  Nothing is
longer than a match that leaves nothing. -/
def longer (a : Option Match) (b : Unit → Option Match) : Option Match :=
  match a with
  | none => b ()
  | some m =>
      if m.rest.isEmpty then a
      else
        match b () with
        | none => a
        | some n => if n.rest.length < m.rest.length then some n else a

/-- The place behind so many bytes. -/
def Place.skip (p : Place) (n : Nat) : Place :=
  ⟨(p.rest.take n).reverse ++ p.before, p.rest.drop n⟩

/-- Tries to go on behind each number of bytes, the greatest first. -/
def tryLengths (p : Place) (least : Nat) (next : Place → Option Match) : Nat → Option Match
  | 0 => if least = 0 then next p else none
  | n + 1 =>
      if n + 1 < least then none
      else longer (next (p.skip (n + 1))) fun _ ↦ tryLengths p least next n

/-- Matches an expression at a place and goes on behind it; `fuel` bounds the
depth. -/
def run (style : Style) : Nat → Regex → Place → Groups → (Place → Groups → Option Match) →
    Option Match
  | 0, _, _, _, _ => none
  | fuel + 1, r, p, g, next =>
      match r with
      | .empty => next p g
      | .one negated ranges =>
          match p.rest with
          | b :: rest => if inRanges ranges b != negated then next ⟨b :: p.before, rest⟩ g else none
          | [] => none
      | .boundary b => if isAt style b p then next p g else none
      | .group n r =>
          run style fuel r p g fun q g ↦
            next q ((n, p.rest.take (p.rest.length - q.rest.length)) :: g)
      | .again n =>
          match g.lookup n with
          | none => none
          | some text =>
              let fold (t : Bytes) : Bytes := if style.ignoresCase then t.map toLower else t
              if (fold text).isPrefixOf (fold p.rest) then next (p.skip text.length) g else none
      | .both r s => run style fuel r p g fun q g ↦ run style fuel s q g next
      | .either r s =>
          longer (run style fuel r p g next) fun _ ↦ run style fuel s p g next
      | .times (.one negated ranges) least most =>
          let run := (p.rest.takeWhile fun b ↦ inRanges ranges b != negated).length
          let most := match most with
            | some n => min n run
            | none => run
          tryLengths p least (fun q ↦ next q g) most
      | .times r least most =>
          let more (_ : Unit) : Option Match :=
            if most = some 0 then none
            else
              run style fuel r p g fun q g ↦
                if q.rest.length = p.rest.length && least = 0 then none
                else run style fuel (.times r (least - 1) (most.map (· - 1))) q g next
          if least = 0 then longer (more ()) fun _ ↦ next p g else more ()

/-- The longest match at a place. -/
def matchAt (style : Style) (r : Regex) (p : Place) : Option Match :=
  run style (1000 * (p.rest.length + 100)) r p [] fun q g ↦ some ⟨q.rest, g⟩

/-- The first place from one on where the expression matches, and its match there. -/
def search (style : Style) (r : Regex) : Nat → Place → Option (Place × Match)
  | fuel, p =>
      match matchAt style r p with
      | some m => some (p, m)
      | none =>
          match fuel, p.rest with
          | fuel + 1, b :: rest => search style r fuel ⟨b :: p.before, rest⟩
          | _, _ => none

end Regex

end PipeShell.Userland

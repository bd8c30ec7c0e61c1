import PipeShell.Userland.Shell.Source

/-!
# Reading words

A word ends where a blank or a sign of the language stands outside of quotes and
expansions.  What may be in the word of an expansion depends on the quotes that the
expansion stands in, so the reader keeps a stack of levels; a level tells in what
quotes it is and how many expansions have been begun in it.  The text of a document
is read as if it were quoted, up to a line that is its mark.
-/

namespace PipeShell.Userland.Shell

/-- What bytes are taken for. -/
inductive Quoting where
  | plain
  | double
  | single
  | arithmetic
  deriving DecidableEq, Repr

/-- What a byte does to a word. -/
inductive Role where
  | finish
  | lineEnd
  | letter
  | backslash
  | singleQuote
  | doubleQuote
  | endingQuote
  | dollar
  | closingBrace
  | openingParenthesis
  | closingParenthesis
  | backquote
  /-- Ends a word, unless an expansion has been begun. -/
  | sign
  deriving DecidableEq, Repr

/-- What a byte does in quotes. -/
def Quoting.role (quoting : Quoting) : Option UInt8 → Role
  | none => .finish
  | some b =>
      if b == 0x0A then .lineEnd
      else if quoting = .single then if b == 0x27 then .endingQuote else .letter
      else
        match b with
        | 0x5C => .backslash
        | 0x60 => .backquote
        | 0x24 => .dollar
        | 0x7D => .closingBrace
        | _ =>
            match quoting with
            | .plain =>
                if b == 0x27 then .singleQuote
                else if b == 0x22 then .doubleQuote
                else if [0x3C, 0x3E, 0x28, 0x29, 0x3B, 0x26, 0x7C, 0x20, 0x09].contains b then .sign
                else .letter
            | .arithmetic =>
                if b == 0x28 then .openingParenthesis
                else if b == 0x29 then .closingParenthesis
                else .letter
            | _ => if b == 0x22 then .endingQuote else .letter

/-- What is known of the quotes around what is being read. -/
structure Level where
  quoting : Quoting
  /-- Whether the level was made for an expansion and ends with it. -/
  own : Bool
  /-- Whether what is read counts as double-quoted. -/
  doubled : Bool
  /-- Whether double quotes have been opened in an expansion. -/
  inner : Bool
  /-- The number of expansions begun, and of those begun in double quotes. -/
  depth : Nat
  doubledDepth : Nat
  /-- The parentheses opened in arithmetic. -/
  parentheses : Nat

def Level.new (quoting : Quoting) (own : Bool) : Level :=
  ⟨quoting, own, quoting ≠ .plain && quoting ≠ .single, false, 0, 0, 0⟩

/-- What has been begun. -/
inductive Begun where
  | parameter (name : Bytes) (modifier : Modifier)
  | arithmetic

/-- What has been begun, with the pieces in front of it, the last one first, and the
quotes that it stands in. -/
structure Around where
  begun : Begun
  pieces : List Piece
  outside : Bool
  toggled : Bool

/-- A word of which some has been read. -/
structure WordDraft where
  level : Level
  levels : List Level
  around : List Around
  /-- The pieces of the innermost expansion, the last one first. -/
  pieces : List Piece
  /-- Whether the innermost expansion is quoted as a whole. -/
  outside : Bool
  /-- Whether quotes have been opened in it. -/
  toggled : Bool
  /-- Whether part of the word was quoted. -/
  quoted : Bool

/-- The line that ends a document, and whether tabs in front of it are left out. -/
structure Mark where
  text : Bytes
  untabbed : Bool

/-- Puts pieces together that belong together.  All parameters in quotes of their own
make no word if there are none; other quotes make one, and only where they are
opened. -/
def settled (opened : Bool) : List Piece → Word
  | [] => []
  | .quotes :: .parameter quoted name .plain [] :: .quotes :: rest =>
      if !opened && name == [0x40] then .parameter quoted name .plain [] :: settled false rest
      else if opened then .parameter quoted name .plain [] :: .quotes :: settled true rest
      else .quotes :: .parameter quoted name .plain [] :: settled false rest
  | .quotes :: rest => if opened then settled false rest else .quotes :: settled true rest
  | .bytes quoted text :: rest =>
      match settled opened rest with
      | .bytes quoted' text' :: more =>
          if quoted == quoted' then .bytes quoted (text ++ text') :: more
          else .bytes quoted text :: .bytes quoted' text' :: more
      | more => .bytes quoted text :: more
  | piece :: rest => piece :: settled opened rest

namespace WordDraft

/-- The beginning of a word. -/
def start (quoting : Quoting) (outside : Bool) : WordDraft :=
  ⟨.new quoting false, [], [], [], outside, false, false⟩

def isQuoted (w : WordDraft) : Bool :=
  w.outside || w.toggled

def add (w : WordDraft) (piece : Piece) : WordDraft :=
  { w with pieces := piece :: w.pieces }

def addByte (w : WordDraft) (b : UInt8) : WordDraft :=
  w.add (.bytes w.isQuoted [b])

/-- Adds a byte that a backslash stands in front of. -/
def addQuoted (w : WordDraft) (b : UInt8) : WordDraft :=
  w.add (.bytes true [b])

/-- Opens or closes quotes. -/
def toggle (w : WordDraft) (double : Bool) : WordDraft :=
  let inner := if double && 0 < w.level.depth then !w.level.inner else w.level.inner
  { w.add .quotes with toggled := !w.toggled, level := { w.level with inner } }

/-- Opens double quotes. -/
def openDouble (w : WordDraft) : WordDraft :=
  { w with level := { w.level with quoting := .double, doubled := true } }.toggle true

/-- Opens single quotes. -/
def openSingle (w : WordDraft) : WordDraft :=
  { w with level := { w.level with quoting := .single } }.toggle false

/-- Closes quotes. -/
def closeQuotes (w : WordDraft) (double : Bool) : WordDraft :=
  let level :=
    if w.level.doubledDepth = 0 then { w.level with quoting := .plain, doubled := false }
    else w.level
  { w with level, quoted := true }.toggle double

/-- Begins an expansion in a level of its own. -/
def push (w : WordDraft) (level : Level) : WordDraft :=
  { w with level, levels := w.level :: w.levels }

/-- Leaves a level. -/
def pop (w : WordDraft) : WordDraft :=
  match w.levels with
  | level :: levels => { w with level, levels }
  | [] => w

/-- Begins an expansion; `outside` says whether it is quoted as a whole. -/
def enter (w : WordDraft) (begun : Begun) (outside : Bool) : WordDraft :=
  { w with
    around := ⟨begun, w.pieces, w.outside, w.toggled⟩ :: w.around
    pieces := []
    outside
    toggled := false }

/-- Ends the innermost expansion. -/
def leave (w : WordDraft) : WordDraft :=
  match w.around with
  | [] => w
  | a :: around =>
      let quoted := a.outside || a.toggled
      let word := settled false w.pieces.reverse
      let pieces : List Piece :=
        match a.begun with
        | .arithmetic => .arithmetic quoted word :: a.pieces
        | .parameter name modifier =>
            if modifier = .plain then
              word.reverse ++ .parameter quoted name .plain [] :: a.pieces
            else .parameter quoted name modifier word :: a.pieces
      { w with around, pieces, outside := a.outside, toggled := a.toggled }

/-- Begins a parameter whose modifier has a word. -/
def enterParameter (w : WordDraft) (name : Bytes) (modifier : Modifier) : WordDraft :=
  let trims := modifier matches .withoutFront _ | .withoutBack _
  let quoting : Quoting :=
    if trims then .plain
    else if w.level.quoting = .arithmetic then .double
    else w.level.quoting
  let quoted := w.isQuoted && !trims
  let w := if quoting ≠ w.level.quoting || w.level.inner then w.push (.new quoting true) else w
  let level :=
    { w.level with
      depth := w.level.depth + 1
      doubledDepth := w.level.doubledDepth + if w.level.doubled then 1 else 0 }
  { w with level }.enter (.parameter name modifier) quoted

/-- Ends a parameter, if one has been begun and a brace can end it. -/
def closeBrace (w : WordDraft) : WordDraft :=
  if !w.level.inner && 0 < w.level.depth then
    let level := { w.level with depth := w.level.depth - 1 }
    let w := { w with level }
    let w :=
      if level.depth = 0 && level.own then w.pop
      else { w with level := { level with doubledDepth := level.doubledDepth - 1 } }
    w.leave
  else w.addByte 0x7D

end WordDraft

/-- How a word goes on behind a byte. -/
inductive Step where
  | more (w : WordDraft)
  /-- A line has ended. -/
  | line (w : WordDraft)
  /-- The word has ended. -/
  | done (w : WordDraft)

namespace Reading

/-- The bytes from one on that are of a kind, with the byte that follows them. -/
def takeWhile (limit : Nat) (holds : UInt8 → Bool) (b : Option UInt8) :
    Reading (Bytes × Option UInt8) := do
  match limit, b with
  | limit + 1, some c =>
      if holds c then
        let (more, b) ← takeWhile limit holds (← joined)
        return (c :: more, b)
      else return ([], b)
  | _, _ => return ([], b)

/-- The bytes of the form of a modifier. -/
def modifierOf (orEmpty : Bool) (b : Option UInt8) : Modifier :=
  match b with
  | some 0x7D => .plain
  | some 0x2D => .fallback orEmpty
  | some 0x2B => .alternative orEmpty
  | some 0x3F => .require orEmpty
  | some 0x3D => .assign orEmpty
  | _ => .bad

/-- The modifier behind the name of a parameter in braces, and whether it has a word
or what follows the name has ended the expansion. -/
def modifier (b : Option UInt8) : Reading (Modifier × Bool) := do
  match b with
  | some 0x7D => return (.plain, false)
  | some 0x3A => return (modifierOf true (← joined), true)
  | some 0x25 | some 0x23 =>
      let c ← joined
      let longest := c == b
      unless longest do back c
      return (if b == some 0x23 then .withoutFront longest else .withoutBack longest, true)
  | _ => return (modifierOf false b, true)

/-- Goes on behind a dollar sign and a brace or the first byte of a name. -/
def parameter (w : WordDraft) (braced : Bool) (first : Option UInt8) : Reading WordDraft := do
  let finish (name : Bytes) (b : Option UInt8) : Reading WordDraft := do
    if braced then
      let (m, open_) ← modifier b
      return if open_ then w.enterParameter name m else w.add (.parameter w.isQuoted name .plain [])
    else
      back b
      return w.add (.parameter w.isQuoted name .plain [])
  let bad (b : Option UInt8) : Reading WordDraft := do
    back b
    return w.enterParameter [] .bad
  let lengthOf (name : Bytes) (b : Option UInt8) : Reading WordDraft := do
    back b
    return w.enterParameter name (if b == some 0x7D then .length else .bad)
  match first with
  | none => bad none
  | some b =>
      if beginsName b then
        let (name, b) ← takeWhile byteLimit isInName first
        finish name b
      else if isDigit b then
        if braced then
          let (name, b) ← takeWhile byteLimit isDigit first
          finish name b
        else finish [b] (← joined)
      else if b == 0x7D then bad first
      else
        let c ← joined
        if braced && b == 0x23 then
          match c with
          | none => finish [b] c
          | some d =>
              if beginsName d then
                let (name, b) ← takeWhile byteLimit isInName c
                lengthOf name b
              else if isDigit d then
                let (name, b) ← takeWhile byteLimit isDigit c
                lengthOf name b
              else
                let e ← joined
                if d == 0x7D || e != some 0x7D then
                  back e
                  finish [b] c
                else if isSpecialName d then lengthOf [d] e
                else bad e
        else if isSpecialName b then finish [b] c
        else bad c

/-- Goes on behind a dollar sign.  In the mark of a document it stands for
itself. -/
def dollar (substitution : Bool → Reading Command) (isMark : Bool) (w : WordDraft) :
    Reading WordDraft := do
  let b ← joined
  let begins (b : UInt8) : Bool :=
    b == 0x28 || b == 0x7B || beginsName b || isSpecialName b
  if isMark || !b.any begins then
    back b
    return w.addByte 0x24
  else if b == some 0x28 then
    let c ← joined
    if c == some 0x28 then
      return (w.push (.new .arithmetic false)).enter .arithmetic false
    else
      back c
      let command ← substitution false
      return w.add (.output w.isQuoted command)
  else if b == some 0x7B then parameter w true (← joined)
  else parameter w false b

/-- The text up to the next backquote, where a backslash keeps some bytes from their
meaning. -/
def backquoted (doubled : Bool) : Nat → Bytes → Reading Bytes
  | 0, text => return text.reverse
  | limit + 1, text => do
      match ← joined with
      | none => fail "EOF in backquote substitution"
      | some 0x60 => return text.reverse
      | some 0x5C =>
          match ← next with
          | none => backquoted doubled limit (0x5C :: text)
          | some b =>
              let bare := b == 0x5C || b == 0x60 || b == 0x24 || (doubled && b == 0x22)
              backquoted doubled limit (b :: if bare then text else 0x5C :: text)
      | some b =>
          if b == 0x0A then countLine
          backquoted doubled limit (b :: text)

/-- Goes on behind a backslash. -/
def backslash (isDocument : Bool) (w : WordDraft) : Reading WordDraft := do
  match ← next with
  | none => return w.addQuoted 0x5C
  | some b =>
      let level := w.level
      let bare := b == 0x5C || b == 0x60 || b == 0x24
        || (b == 0x22 && !(isDocument && level.depth = 0)) || (b == 0x7D && level.depth ≠ 0)
      let w := if level.doubled && !bare then w.addQuoted 0x5C else w
      return { w.addQuoted b with quoted := true }

/-- Goes on with a byte. -/
def step (substitution : Bool → Reading Command) (isDocument isMark : Bool) (w : WordDraft)
    (b : Option UInt8) : Reading Step := do
  let byte := b.getD 0
  match w.level.quoting.role b with
  | .finish => return .done w
  | .lineEnd =>
      if w.level.quoting = .plain && w.level.depth = 0 then return .done w
      countLine
      return .line (w.addByte byte)
  | .letter => return .more (w.addByte byte)
  | .backslash => return .more (← backslash isDocument w)
  | .singleQuote => return .more w.openSingle
  | .doubleQuote => return .more w.openDouble
  | .endingQuote =>
      if isDocument && w.level.depth = 0 then return .more (w.addByte byte)
      return .more (w.closeQuotes (byte == 0x22))
  | .dollar => return .more (← dollar substitution isMark w)
  | .closingBrace => return .more w.closeBrace
  | .openingParenthesis =>
      let level := { w.level with parentheses := w.level.parentheses + 1 }
      return .more ({ w with level }.addByte byte)
  | .closingParenthesis =>
      if 0 < w.level.parentheses then
        let level := { w.level with parentheses := w.level.parentheses - 1 }
        return .more ({ w with level }.addByte byte)
      let c ← joined
      if c == some 0x29 then return .more w.pop.leave
      back c
      return .more (w.addByte byte)
  | .backquote =>
      if isMark then return .more { w.addByte byte with quoted := true }
      let text ← backquoted w.level.doubled byteLimit []
      let command ← within text (substitution true)
      return .more (w.add (.output w.isQuoted command))
  | .sign => return if w.level.depth = 0 then .done w else .more (w.addByte byte)

/-- Skips tabs. -/
def skipTabs : Nat → Option UInt8 → Reading (Option UInt8)
  | limit + 1, some 0x09 => do skipTabs limit (← next)
  | _, b => return b

/-- Reads the mark of a document as far as it goes: what has been read of it, the
last byte first, the byte behind that, and whether it is all of the mark. -/
def matchMark (found : Bytes) (b : Option UInt8) : Bytes → Reading (Bytes × Option UInt8 × Bool)
  | [] => return (found, b, true)
  | m :: rest => do
      if b == some m then matchMark (m :: found) (← next) rest
      else return (found, b, false)

/-- At the beginning of a line, looks for the mark of a document: the byte that the
line begins with, or none if the document ends. -/
def lineStart (mark : Option Mark) (b : Option UInt8) : Reading (Option UInt8) := do
  match mark with
  | none => return b
  | some mark =>
      let b ← if mark.untabbed then skipTabs byteLimit b else pure b
      let (found, after, whole) ← matchMark [] b mark.text
      if whole && (after.isNone || after == some 0x0A) then
        countLine
        return none
      match found.reverse with
      | [] => return after
      | first :: rest =>
          modify (·.back (rest ++ after.toList))
          return some first

/-- Reads a word from a byte on; the byte behind it is told. -/
def wordFrom (substitution : Bool → Reading Command) (mark : Option Mark) (isMark : Bool) :
    Nat → WordDraft → Option UInt8 → Reading (WordDraft × Option UInt8)
  | 0, w, b => return (w, b)
  | limit + 1, w, b => do
      let nextOf (w : WordDraft) : Reading (Option UInt8) :=
        if w.level.quoting = .single then next else joined
      match ← step substitution mark.isSome isMark w b with
      | .more w => wordFrom substitution mark isMark limit w (← nextOf w)
      | .line w => wordFrom substitution mark isMark limit w (← lineStart mark (← nextOf w))
      | .done w =>
          if w.level.quoting = .arithmetic then fail "Missing '))'"
          if w.level.quoting ≠ .plain && mark.isNone then fail "Unterminated quoted string"
          if w.level.depth ≠ 0 then fail "Missing '\x7d'"
          return (w, b)

/-- The sign of a redirection, of which the first byte has been read. -/
def redirectionSign (fd : Option Nat) (first : UInt8) : Reading Redirecting := do
  let b ← joined
  if first == 0x3E then
    let fd := fd.getD 1
    match b with
    | some 0x3E => return .file fd .appending
    | some 0x7C => return .file fd .overwriting
    | some 0x26 => return .copy fd false
    | _ =>
        back b
        return .file fd .writing
  else
    let fd := fd.getD 0
    match b with
    | some 0x3C =>
        let c ← joined
        let untabbed := c == some 0x2D
        unless untabbed do back c
        return .document fd untabbed
    | some 0x26 => return .copy fd true
    | some 0x3E => return .file fd .both
    | _ =>
        back b
        return .file fd .reading

/-- Reads a word, or the sign of a redirection behind at most one digit. -/
def wordToken (substitution : Bool → Reading Command) (isMark : Bool) (b : Option UInt8) :
    Reading Token := do
  let (w, b) ← wordFrom substitution none isMark byteLimit (.start .plain false) b
  let fd? : Option (Option Nat) :=
    match w.pieces with
    | [] => some none
    | [.bytes false [d]] => if isDigit d then some (some (d.toNat - 48)) else none
    | _ => none
  match fd?, b with
  | some fd, some c =>
      if (c == 0x3C || c == 0x3E) && !w.quoted then
        let redirecting ← redirectionSign fd c
        modify fun d ↦ { d with redirecting }
        return .redirection
  | _, _ => pure ()
  back b
  modify fun d ↦ { d with word := settled false w.pieces.reverse, quoted := w.quoted }
  return .word

/-- Reads a document. -/
def document (substitution : Bool → Reading Command) (a : Awaited) : Reading Unit := do
  let mark := some ⟨a.mark, a.untabbed⟩
  let quoting : Quoting := if a.quoted then .single else .double
  let first ← if a.quoted then next else joined
  let b ← lineStart mark first
  let (w, _) ← wordFrom substitution mark false byteLimit (.start quoting true) b
  let word := settled false w.pieces.reverse
  modify fun d ↦ { d with documents := d.documents.setIfInBounds a.number word }

end Reading

end PipeShell.Userland.Shell

import PipeShell.Userland.Editor.Escapes

/-!
# Reading editing scripts

A script is read piece by piece, as the arguments and files of a call give it: a
block may go on from one piece to the next, and so may the text of a command
whose last byte is a backslash.  A fault is reported with the place up to which
its piece has been read.
-/

namespace PipeShell.Userland.Editor

/-- Where a piece of a script comes from. -/
inductive Origin where
  /-- An argument, counted from one. -/
  | argument (n : Nat)
  | file (name : String)

/-- A place in a script: so many bytes of a piece, and so many of its lines, are
before it. -/
structure Position where
  origin : Origin
  bytes : Nat
  lines : Nat

/-- The place as messages show it. -/
def Position.shown (p : Position) : String :=
  match p.origin with
  | .argument n => s!"-e expression #{n}, char {p.bytes}"
  | .file name => s!"file {name} line {p.lines + 1}"

/-- A command whose text goes on in the next piece of the script: its place, and
what is known of the text. -/
structure Unended where
  command : Nat
  text : Bytes

/-- A script as far as it has been read. -/
structure ScriptDraft where
  commands : Array Command
  /-- The blocks that are open, the inner ones first. -/
  blocks : List (Nat × Position)
  labels : List (Bytes × Nat)
  /-- The jumps and the labels they lead to, the latest first. -/
  jumps : List (Nat × Bytes)
  /-- The files that are written. -/
  sinks : Array Bytes
  /-- The files that are read line by line. -/
  sources : Array Bytes
  unended : Option Unended
  quiet : Bool
  extended : Bool
  /-- Whether lines end with a zero byte. -/
  byZero : Bool
  /-- Whether commands that reach outside of the editor are refused. -/
  confined : Bool

def ScriptDraft.new : ScriptDraft :=
  ⟨#[], [], [], [], #[], #[], none, false, false, false, false⟩

/-- The number of a file among others, which is added if it is new. -/
def numberOf (files : Array Bytes) (name : Bytes) : Nat × Array Bytes :=
  match files.idxOf? name with
  | some i => (i, files)
  | none => (files.size, files.push name)

/-- What a script is read with. -/
structure Reading where
  piece : Bytes
  rest : Bytes
  origin : Origin
  draft : ScriptDraft

/-- What is wrong with a script. -/
structure Fault where
  message : String
  /-- Another place than the one that has been reached. -/
  position : Option Position

abbrev Reader := ExceptT Fault (StateM Reading)

namespace Reader

def fail {α : Type} (message : String) : Reader α :=
  throw ⟨message, none⟩

/-- The next byte, which is taken. -/
def next : Reader (Option UInt8) := do
  match (← get).rest with
  | [] => return none
  | b :: rest =>
      modify ({ · with rest })
      return some b

/-- The next byte, which is left. -/
def peek : Reader (Option UInt8) :=
  return (← get).rest.head?

def skip (n : Nat) : Reader Unit :=
  modify fun s ↦ { s with rest := s.rest.drop n }

def skipBlanks : Reader Unit :=
  modify fun s ↦ { s with rest := s.rest.dropWhile isBlank }

def draft : Reader ScriptDraft :=
  return (← get).draft

def change (f : ScriptDraft → ScriptDraft) : Reader Unit :=
  modify fun s ↦ { s with draft := f s.draft }

/-- The place that has been reached. -/
def position : Reader Position := do
  let s ← get
  let read := s.piece.take (s.piece.length - s.rest.length)
  return ⟨s.origin, read.length, read.count 10⟩

/-- The digits that follow, as a number. -/
def number : Reader Nat := do
  let digits := (← get).rest.takeWhile isDigit
  skip digits.length
  return valueOf 10 digits

/-- Reads up to where a command may end. -/
def endOfCommand : Reader Unit := do
  skipBlanks
  match ← peek with
  | none | some 0x7D | some 0x23 => return ()
  | some 0x3B | some 10 => skip 1
  | some _ =>
      skip 1
      fail "extra characters after command"

/-! ## Delimited texts -/

/-- Where a reader of brackets stands: whether a bracket may open a name in them,
or a mark has opened one, or it may have been closed. -/
inductive BracketPlace where
  | outside
  | opened
  | named (mark : UInt8)
  | closed (mark : UInt8)
  deriving DecidableEq, Repr

/-- The place behind one more byte that has no meaning there. -/
def BracketPlace.settle : BracketPlace → BracketPlace
  | .opened => .outside
  | .closed mark => .named mark
  | place => place

/-- Reads brackets, behind their first bytes, up to the one that closes them, and
tells what follows; `none` if they are not closed on their line. -/
def cutBrackets (place : BracketPlace) : Bytes → Bytes × Option Bytes
  | [] => ([], none)
  | b :: rest =>
      let goOn (place : BracketPlace) : Bytes × Option Bytes :=
        let (taken, rest) := cutBrackets place rest
        (b :: taken, rest)
      if b == 10 then ([], none)
      else if b == 0x5D then
        match place with
        | .outside | .opened => ([b], some rest)
        | .closed _ => goOn .outside
        | .named mark => goOn (.named mark)
      else if b == 0x5B then goOn (if place = .outside then .opened else place)
      else if b == 0x2E || b == 0x3A || b == 0x3D then
        match place with
        | .opened => goOn (.named b)
        | .named mark => goOn (if mark == b then .closed mark else place)
        | _ => goOn place.settle
      else goOn place.settle

/-- The brackets that follow an opening one. -/
def cutSet (text : Bytes) : Bytes × Option Bytes :=
  let hat := text.take (if text.head? == some 0x5E then 1 else 0)
  let text := text.drop hat.length
  let first := text.take (if text.head? == some 0x5D then 1 else 0)
  let (taken, rest) := cutBrackets .outside (text.drop first.length)
  (hat ++ first ++ taken, rest)

/-- Reads up to a delimiter.  In a pattern the delimiter may stand inside of
brackets; elsewhere it, and a line feed, may stand behind a backslash.  The text is
`none` if there is no delimiter on the line. -/
def cutDelimited (delimiter : UInt8) (pattern : Bool) : Nat → Bytes → Option Bytes × Bytes
  | 0, text => (none, text)
  | limit + 1, text =>
      let add (taken : Bytes) (rest : Bytes) : Option Bytes × Bytes :=
        let (more, rest) := cutDelimited delimiter pattern limit rest
        (more.map (taken ++ ·), rest)
      match text with
      | [] => (none, [])
      | b :: rest =>
          if b == 10 then (none, text)
          else if b == delimiter then (some [], rest)
          else if b == 0x5C then
            match rest with
            | [] => (none, [])
            | c :: rest =>
                if c == 0x6E && pattern then add [10] rest
                else if c == 10 then add [10] rest
                else if c == delimiter && (pattern || c != 0x26) then add [c] rest
                else add [0x5C, c] rest
          else if b == 0x5B && pattern then
            match cutSet rest with
            | (taken, some rest) => add (b :: taken) rest
            | (taken, none) => (none, rest.drop taken.length)
          else add [b] rest

/-- A text up to a delimiter. -/
def delimited (delimiter : UInt8) (pattern : Bool) : Reader (Option Bytes) := do
  let rest := (← get).rest
  let (text, rest) := cutDelimited delimiter pattern (rest.length + 1) rest
  modify ({ · with rest })
  return text

/-! ## Patterns and addresses -/

/-- The same expression that matches no line feed where any byte but some is
matched. -/
def withoutLineFeeds : Regex → Regex
  | .one true ranges => .one true ((10, 10) :: ranges)
  | .group n r => .group n (withoutLineFeeds r)
  | .both r s => .both (withoutLineFeeds r) (withoutLineFeeds s)
  | .either r s => .either (withoutLineFeeds r) (withoutLineFeeds s)
  | .times r least most => .times (withoutLineFeeds r) least most
  | r => r

/-- How a pattern is matched. -/
structure PatternFlags where
  ignoresCase : Bool
  byLines : Bool

/-- Reads a pattern; the empty one is the last one used. -/
def pattern (flags : PatternFlags) (text : Bytes) : Reader (Option Pattern) := do
  if text.isEmpty then
    if flags.ignoresCase || flags.byLines then
      fail "cannot specify modifiers on empty regexp"
    return none
  let d ← draft
  let style : Regex.Style := ⟨d.extended, flags.ignoresCase, flags.byLines && !d.byZero⟩
  match Regex.read style (patternText (text.length + 1) text) with
  | .ok (r, groups) =>
      return some ⟨style, if flags.byLines then withoutLineFeeds r else r, groups⟩
  | .error e => fail e.message

/-- The letters behind an address. -/
def addressFlags : Nat → PatternFlags → Reader PatternFlags
  | 0, flags => return flags
  | limit + 1, flags => do
      skipBlanks
      match ← peek with
      | some 0x49 =>
          skip 1
          addressFlags limit { flags with ignoresCase := true }
      | some 0x4D =>
          skip 1
          addressFlags limit { flags with byLines := true }
      | _ => return flags

/-- Reads an address, if there is one. -/
def address? : Reader (Option RangeEnd) := do
  match ← peek with
  | some 0x24 =>
      skip 1
      return some (.address .last)
  | some b =>
      if b == 0x2F || b == 0x5C then
        skip 1
        let delimiter ← if b == 0x5C then next else pure (some b)
        match delimiter with
        | none => fail "unterminated address regex"
        | some delimiter =>
            match ← delimited delimiter true with
            | none => fail "unterminated address regex"
            | some text =>
                let flags ← addressFlags (← get).rest.length ⟨false, false⟩
                return some (.address (.matching (← pattern flags text)))
      else if isDigit b then
        let first ← number
        skipBlanks
        if (← peek) == some 0x7E then
          skip 1
          skipBlanks
          let step ← number
          return some (.address (if step = 0 then .line first else .every first step))
        return some (.address (.line first))
      else if b == 0x2B || b == 0x7E then
        skip 1
        skipBlanks
        let n ← number
        return some (if b == 0x2B || n = 0 then .after n else .multiple n)
      else return none
  | none => return none

/-- Reads the lines that a command is for. -/
def selection : Reader Selection := do
  match ← address? with
  | none => return .all
  | some (.address a) =>
      skipBlanks
      let zero := a matches .line 0
      if (← peek) == some 0x2C then
        skip 1
        skipBlanks
        match ← address? with
        | none =>
            skip 1
            fail "unexpected \x60,'"
        | some last =>
            skipBlanks
            if zero && !(last matches .address (.matching _)) then
              skip 1
              fail "invalid usage of line address 0"
            return .range a last
      if zero then
        skip 1
        fail "invalid usage of line address 0"
      return .one a
  | some _ => fail "invalid usage of +N or ~N as first address"

/-! ## Commands -/

/-- The name of a file, which goes up to the end of the line. -/
def fileName : Reader Bytes := do
  if (← draft).confined then fail "e/r/w commands disabled in sandbox mode"
  skipBlanks
  let name := (← get).rest.takeWhile (· != 10)
  skip (name.length + 1)
  if name.isEmpty then fail "missing filename in r/R/w/W commands"
  return name

/-- The number of a file that is written. -/
def sink : Reader Nat := do
  let (n, sinks) := numberOf (← draft).sinks (← fileName)
  change ({ · with sinks })
  return n

/-- The name of a place in the script. -/
def label : Reader Bytes := do
  skipBlanks
  let name := (← get).rest.takeWhile fun b ↦ !isSpace b && b != 0x3B && b != 0x7D && b != 0x23
  skip name.length
  return name

/-- The rest of a text that a command shows.  If the piece of the script ends
behind a backslash, the text goes on in the next piece. -/
def text (known : Bytes) : Reader Bytes := do
  let rest := (← get).rest
  match plainEscapes (rest.length + 1) rest with
  | (text, some rest) =>
      modify ({ · with rest })
      return known ++ text ++ [10]
  | (text, none) =>
      modify ({ · with rest := [] })
      let text := known ++ text ++ [10]
      change fun d ↦ { d with unended := some ⟨d.commands.size, text⟩ }
      return text

/-- The text of a command. -/
def commandText : Reader Bytes := do
  skipBlanks
  match (← get).rest with
  | [] => fail "expected \\ after \x60a', \x60c' or \x60i'"
  | [0x5C] =>
      skip 1
      change fun d ↦ { d with unended := some ⟨d.commands.size, []⟩ }
      return []
  | 0x5C :: 10 :: _ =>
      skip 2
      text []
  | 0x5C :: _ =>
      skip 1
      text []
  | _ => text []

/-- The flags of a substitution. -/
def substitutionFlags : Nat → Substitution → PatternFlags → Reader (Substitution × PatternFlags)
  | 0, s, flags => return (s, flags)
  | limit + 1, s, flags => do
      let again := substitutionFlags limit
      match ← next with
      | none | some 10 | some 0x3B => return (s, flags)
      | some 13 =>
          if (← next) == some 10 then return (s, flags)
          fail "unknown option to \x60s'"
      | some b =>
          if b == 0x7D || b == 0x23 then
            modify fun s ↦ { s with rest := b :: s.rest }
            return (s, flags)
          else if isBlank b then again s flags
          else if b == 0x69 || b == 0x49 then again s { flags with ignoresCase := true }
          else if b == 0x6D || b == 0x4D then again s { flags with byLines := true }
          else if b == 0x65 then again { s with runs := true } flags
          else if b == 0x70 then
            if s.shows || s.showsBefore then fail "multiple \x60p' options to \x60s' command"
            again (if s.runs then { s with shows := true } else { s with showsBefore := true }) flags
          else if b == 0x67 then
            if s.everywhere then fail "multiple \x60g' options to \x60s' command"
            again { s with everywhere := true } flags
          else if b == 0x77 then return ({ s with sink := some (← sink) }, flags)
          else if isDigit b then
            if s.number ≠ 0 then fail "multiple number options to \x60s' command"
            modify fun s ↦ { s with rest := b :: s.rest }
            let n ← number
            if n = 0 then fail "number option to \x60s' command may not be zero"
            again { s with number := n } flags
          else fail "unknown option to \x60s'"

/-- Reads a substitution. -/
def substitution : Reader Verb := do
  let unterminated : String := "unterminated \x60s' command"
  let some delimiter ← next | fail unterminated
  let some searched ← delimited delimiter true | fail unterminated
  let some replacement ← delimited delimiter false | fail unterminated
  let parts := Replacement.partsOf replacement
  let new : Substitution := ⟨none, parts, 0, false, false, false, false, none⟩
  let (s, flags) ← substitutionFlags ((← get).rest.length + 1) new ⟨false, false⟩
  let pattern ← pattern flags searched
  if let some p := pattern then
    let n := greatestGroup parts
    if p.groups < n then fail ("invalid reference \\" ++ toString n ++ " on \x60s' command's RHS")
  if s.runs && (← draft).confined then fail "e/r/w commands disabled in sandbox mode"
  /- Without a command to run, the line is shown once, when all is done. -/
  let s := if s.runs then s else { s with shows := s.shows || s.showsBefore, showsBefore := false }
  return .substitute { s with pattern }

/-- Reads a translation. -/
def translation : Reader Verb := do
  let unterminated : String := "unterminated \x60y' command"
  let some delimiter ← next | fail unterminated
  let some old ← delimited delimiter false | fail unterminated
  let some new ← delimited delimiter false | fail unterminated
  let old := translationText old.length old
  let new := translationText new.length new
  if old.length ≠ new.length then fail "strings for \x60y' command are different lengths"
  endOfCommand
  return .translate (old.zip new)

/-- The version of the editor that scripts can ask for. -/
def version : List Nat :=
  [4, 9]

/-- Whether a version is later than that of the editor. -/
def isLater (text : String) : Bool :=
  match (text.splitOn ".").mapM decimal? with
  | some numbers => 3 < numbers.length || version < numbers
  | none => true

/-- A number behind a command, if there is one. -/
def argument? : Reader (Option Nat) := do
  skipBlanks
  if (← peek).any isDigit then
    let n ← number
    endOfCommand
    return some n
  endOfCommand
  return none

/-- The commands of one letter that nothing follows. -/
def simpleVerb? (b : UInt8) : Option Verb :=
  [('=', Verb.showNumber), ('d', .delete), ('D', .deleteFirst), ('F', .showName), ('g', .recall),
    ('G', .recallMore), ('h', .hold), ('H', .holdMore), ('n', .next), ('N', .nextMore),
    ('p', .print), ('P', .printFirst), ('z', .empty), ('x', .exchange)].lookup
      (Char.ofNat b.toNat)

/-- Notes a jump to a label. -/
def jump (condition : JumpCondition) : Reader Verb := do
  let name ← label
  change fun d ↦ { d with jumps := (d.commands.size, name) :: d.jumps }
  return .jump condition 0

/-- Skips the rest of a comment. -/
def comment : Reader Unit := do
  let s ← get
  let first := s.origin matches .argument 1 | .file _
  if first && s.piece.take 2 == [0x23, 0x6E] && s.rest.length + 1 == s.piece.length &&
      s.draft.commands.isEmpty then
    change ({ · with quiet := true })
  skip ((s.rest.takeWhile (· != 10)).length + 1)

/-- Reads what a command does, behind the lines that it is for; `none` if there is
nothing to do. -/
def verb? (lines : Selection) : Reader (Option Verb) := do
  let addressed := !(lines matches .all)
  match ← next with
  | none => fail "missing command"
  | some b =>
      if let some v := simpleVerb? b then
        endOfCommand
        return some v
      match Char.ofNat b.toNat with
      | '#' =>
          if addressed then fail "comments don't accept any addresses"
          comment
          return none
      | ':' =>
          if addressed then fail ": doesn't want any addresses"
          let name ← label
          if name.isEmpty then fail "\":\" lacks a label"
          change fun d ↦ { d with labels := (name, d.commands.size) :: d.labels }
          return none
      | '\x7b' =>
          let place ← position
          change fun d ↦ { d with blocks := (d.commands.size, place) :: d.blocks }
          return some (.opening 0)
      | '\x7d' =>
          match (← draft).blocks with
          | [] => fail "unexpected \x60\x7d'"
          | (opening, _) :: blocks =>
              if addressed then fail "\x7d doesn't want any addresses"
              endOfCommand
              change fun d ↦
                { d with
                  blocks
                  commands := d.commands.modify opening fun c ↦
                    { c with verb := .opening (d.commands.size + 1) } }
              return some .closing
      | 'a' => return some (.append (← commandText))
      | 'i' => return some (.insert (← commandText))
      | 'c' => return some (.change (← commandText))
      | 'e' =>
          if (← draft).confined then fail "e/r/w commands disabled in sandbox mode"
          skipBlanks
          match ← peek with
          | none | some 10 =>
              skip 1
              return some (.execute none)
          | some _ => return some (.execute (some (← commandText)))
      | 'b' => return some (← jump .always)
      | 't' => return some (← jump .substituted)
      | 'T' => return some (← jump .notSubstituted)
      | 'q' =>
          if lines matches .range _ _ then fail "command only uses one address"
          return some (.quit ((← argument?).getD 0))
      | 'Q' =>
          if lines matches .range _ _ then fail "command only uses one address"
          return some (.leave ((← argument?).getD 0))
      | 'l' => return some (.reveal (← argument?))
      | 'r' => return some (.readFile (← fileName))
      | 'R' =>
          let (n, sources) := numberOf (← draft).sources (← fileName)
          change ({ · with sources })
          return some (.readLine n)
      | 'w' => return some (.write (← sink))
      | 'W' => return some (.writeFirst (← sink))
      | 's' => return some (← substitution)
      | 'y' => return some (← translation)
      | 'v' =>
          let name ← label
          if !name.isEmpty && isLater (plainText name) then fail "expected newer version of sed"
          return none
      | c => fail ("unknown command: \x60" ++ c.toString ++ "'")

/-- Reads a command. -/
def command : Reader Unit := do
  let lines ← selection
  skipBlanks
  let negated := (← peek) == some 0x21
  if negated then
    skip 1
    skipBlanks
    if (← peek) == some 0x21 then
      skip 1
      fail "multiple \x60!'s"
  if let some v ← verb? lines then
    change fun d ↦ { d with commands := d.commands.push ⟨lines, negated, v⟩ }

/-- Reads commands up to the end of a piece; `limit` bounds their number. -/
def commands : Nat → Reader Unit
  | 0 => return ()
  | limit + 1 => do
      modify fun s ↦ { s with rest := s.rest.dropWhile fun b ↦ isSpace b || b == 0x3B }
      if (← get).rest.isEmpty then return ()
      command
      commands limit

/-- Reads the rest of the text that the piece before has begun. -/
def unendedText : Reader Unit := do
  if let some u := (← draft).unended then
    change ({ · with unended := none })
    let rest := (← get).rest
    let (more, left) := plainEscapes (rest.length + 1) rest
    modify ({ · with rest := left.getD [] })
    let known := u.text ++ more ++ [10]
    if left.isNone then change ({ · with unended := some ⟨u.command, known⟩ })
    change fun d ↦
      { d with
        commands := d.commands.modify u.command fun c ↦
          { c with
            verb := match c.verb with
              | .append _ => .append known
              | .insert _ => .insert known
              | .change _ => .change known
              | .execute _ => .execute (some known)
              | v => v } }

end Reader

/-- Adds a piece to a script; what has been read before a fault is kept. -/
def ScriptDraft.add (d : ScriptDraft) (origin : Origin) (piece : Bytes) :
    ScriptDraft × Option (Position × String) :=
  let read : Reader Position := do
    Reader.unendedText
    Reader.commands (piece.length + 1)
    Reader.position
  let start : Reading := ⟨piece, piece, origin, d⟩
  match read.run.run start with
  | (.ok _, s) => (s.draft, none)
  | (.error fault, s) =>
      let here : Position :=
        let read := piece.take (piece.length - s.rest.length)
        ⟨origin, read.length, read.count 10⟩
      (s.draft, some (fault.position.getD here, fault.message))

/-- Joins jumps with the places that they lead to.  A fault is a block that is not
closed, or the name of a label that is missing. -/
def ScriptDraft.finish (d : ScriptDraft) : Except (Position × String ⊕ Bytes) ScriptDraft := do
  if let (_, place) :: _ := d.blocks then throw (.inl ({ place with bytes := 0 }, "unmatched \x60\x7b'"))
  let mut commands := d.commands
  for (i, name) in d.jumps do
    let target ←
      match d.labels.lookup name with
      | some target => pure target
      | none => if name.isEmpty then pure commands.size else throw (.inr name)
    commands := commands.modify i fun c ↦
      match c.verb with
      | .jump condition _ => { c with verb := .jump condition target }
      | _ => c
  return { d with commands }

end PipeShell.Userland.Editor

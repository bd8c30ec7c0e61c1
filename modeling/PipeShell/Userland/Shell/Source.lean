import PipeShell.Userland.Shell.Grammar

/-!
# Where the reader of a script stands

A script is read byte by byte, by a reader that knows which aliases there are and
whether more of the script may come.  If the script is at its end before a command
is complete, the command is read again when there is more.
-/

namespace PipeShell.Userland.Shell

/-- What a script is made of. -/
inductive Token where
  | newline
  | endOfInput
  | semicolon
  | background
  | and
  | or
  | pipe
  | opening
  | closing
  | endOfCase
  | word
  | redirection
  | keyword (name : String)
  deriving DecidableEq, Repr

/-- What complaints call a token. -/
def Token.text : Token → String
  | .newline => "newline"
  | .endOfInput => "end of file"
  | .semicolon => "\";\""
  | .background => "\"&\""
  | .and => "\"&&\""
  | .or => "\"||\""
  | .pipe => "\"|\""
  | .opening => "\"(\""
  | .closing => "\")\""
  | .endOfCase => "\";;\""
  | .word => "word"
  | .redirection => "redirection"
  | .keyword name => "\"" ++ name ++ "\""

/-- Whether no command begins with a token, so that it ends a list of them. -/
def Token.endsList : Token → Bool
  | .endOfInput | .closing | .endOfCase => true
  | .keyword name =>
      ["do", "done", "elif", "else", "esac", "fi", "then", "\x7d"].contains name
  | _ => false

/-- The value of an alias, put in front of what is still to be read. -/
structure Inserted where
  name : Bytes
  rest : Bytes
  /-- Whether the value ends with a blank. -/
  blank : Bool

/-- A document of which the text is still to be read. -/
structure Awaited where
  number : Nat
  mark : Bytes
  quoted : Bool
  /-- Whether tabs at the beginning of lines are left out. -/
  untabbed : Bool

/-- A redirection of which only the sign has been read. -/
inductive Redirecting where
  | file (fd : Nat) (opening : Opening)
  | copy (fd : Nat) (reading : Bool)
  | document (fd : Nat) (untabbed : Bool)

/-- Why a command has not been read. -/
inductive Unread where
  /-- The script may go on. -/
  | incomplete
  | wrong (line : Nat) (text : String)

/-- How far a script has been read. -/
structure Draft where
  text : Bytes
  /-- Whether nothing comes behind the text. -/
  ended : Bool
  line : Nat
  aliases : List (Bytes × Bytes)
  inserted : List Inserted
  /-- The aliases whose values have just been read to their ends. -/
  leaving : List Bytes
  /-- Whether a value that ends with a blank has been read to its end, so that the
  next word may be an alias too. -/
  afterBlank : Bool
  /-- Whether the last token is to be read again. -/
  again : Bool
  token : Token
  /-- The last word, and whether part of it was quoted. -/
  word : Word
  quoted : Bool
  redirecting : Redirecting
  awaited : List Awaited
  documents : Array Word

/-- The beginning of a script. -/
def Draft.start (text : Bytes) (ended : Bool) (line : Nat) (aliases : List (Bytes × Bytes))
    (documents : Array Word) : Draft where
  text
  ended
  line
  aliases
  inserted := []
  leaving := []
  afterBlank := false
  again := false
  token := .newline
  word := []
  quoted := false
  redirecting := .copy 0 true
  awaited := []
  documents

/-- Part of a reader. -/
abbrev Reading := StateT Draft (Except Unread)

/-- More bytes than any script has. -/
def byteLimit : Nat := 0x1000000000000000

namespace Draft

/-- The next byte, if there is one, where the values of these aliases come first. -/
def nextIn (d : Draft) : List Inserted → Except Unread (Option UInt8 × Draft)
  | i :: below =>
      match i.rest with
      | b :: rest => .ok (some b, { d with inserted := { i with rest } :: below })
      | [] =>
          nextIn { d with leaving := i.name :: d.leaving, afterBlank := d.afterBlank || i.blank }
            below
  | [] =>
      match d.text with
      | b :: text => .ok (some b, { d with inserted := [], text })
      | [] => if d.ended then .ok (none, { d with inserted := [] }) else .error .incomplete

/-- Puts bytes in front of what is still to be read. -/
def back (d : Draft) (bytes : Bytes) : Draft :=
  match d.inserted with
  | i :: below => { d with inserted := { i with rest := bytes ++ i.rest } :: below }
  | [] => { d with text := bytes ++ d.text }

/-- The value of an alias that is not being read just now. -/
def alias? (d : Draft) (name : Bytes) : Option Bytes :=
  if d.leaving.contains name || d.inserted.any (·.name == name) then none
  else d.aliases.lookup name

/-- Puts the value of an alias in front of what is still to be read. -/
def insert (d : Draft) (name value : Bytes) : Draft :=
  if value.isEmpty then d
  else { d with inserted := ⟨name, value, value.getLast?.any isBlank⟩ :: d.inserted }

end Draft

namespace Reading

variable {α : Type}

/-- Finds the script wrong. -/
def fail (text : String) : Reading α := do
  let d ← get
  throw (.wrong d.line s!"Syntax error: {text}")

/-- Finds the last token wrong. -/
def unexpected (expected : Option Token) : Reading α := do
  let found := (← get).token.text
  match expected with
  | some token => fail (found ++ " unexpected (expecting " ++ token.text ++ ")")
  | none => fail (found ++ " unexpected")

/-- The next byte, if there is one. -/
def next : Reading (Option UInt8) := do
  let d ← get
  let (b, d) ← ({ d with leaving := [] }.nextIn d.inserted : Except Unread _)
  set d
  return b

/-- Lets a byte be read again. -/
def back (b : Option UInt8) : Reading Unit :=
  modify (·.back b.toList)

/-- Counts the end of a line. -/
def countLine : Reading Unit :=
  modify fun d ↦ { d with line := d.line + 1 }

/-- Lets the last token be read again. -/
def tokenBack : Reading Unit :=
  modify fun d ↦ { d with again := true }

/-- The next byte, where a backslash and the end of the line behind it count as
nothing. -/
def nextJoined (limit : Nat) : Reading (Option UInt8) := do
  match limit with
  | 0 => return none
  | limit + 1 =>
      let b ← next
      if b == some 0x5C then
        let c ← next
        if c == some 0x0A then
          countLine
          nextJoined limit
        else
          back c
          return b
      else return b

/-- The next byte of a joined line. -/
def joined : Reading (Option UInt8) :=
  nextJoined byteLimit

/-- Reads another text to its end, and goes back to the one that was being read. -/
def within (text : Bytes) (read : Reading α) : Reading α := do
  let d ← get
  set { d with text, ended := true, line := 1, inserted := [], leaving := [], again := false }
  let a ← read
  modify fun inner ↦
    { inner with
      text := d.text
      ended := d.ended
      line := d.line
      inserted := d.inserted
      leaving := d.leaving
      again := false }
  return a

end Reading

end PipeShell.Userland.Shell

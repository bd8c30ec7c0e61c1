import PipeShell.Userland.Characters

/-!
# The language of the shell

What a script of the shell `sh` says, when it has been read: words of which
parts are still to be expanded, and commands made of words, redirections and
other commands.
-/

namespace PipeShell.Userland.Shell

/-- What is made of the value of a parameter.  The flag `orEmpty` says whether an
empty value counts as none. -/
inductive Modifier where
  | plain
  | length
  /-- The word, if there is no value. -/
  | fallback (orEmpty : Bool)
  /-- The word, if there is a value. -/
  | alternative (orEmpty : Bool)
  /-- The word, which becomes the value if there is none. -/
  | assign (orEmpty : Bool)
  /-- Without a value the word is a complaint. -/
  | require (orEmpty : Bool)
  /-- The value without a beginning that the word matches. -/
  | withoutFront (longest : Bool)
  /-- The value without an end that the word matches. -/
  | withoutBack (longest : Bool)
  /-- There is no such expansion. -/
  | bad
  deriving DecidableEq, Repr

/-- How a file is opened for a redirection. -/
inductive Opening where
  | reading
  | writing
  /-- Writing, even if what is there is not to be overwritten. -/
  | overwriting
  | appending
  | both
  deriving DecidableEq, Repr

mutual

/-- A part of a word; `quoted` says that it stands in quotes. -/
inductive Piece where
  | bytes (quoted : Bool) (text : Bytes)
  /-- Quotes, which make a word of nothing. -/
  | quotes
  | parameter (quoted : Bool) (name : Bytes) (modifier : Modifier) (word : List Piece)
  /-- What a command writes. -/
  | output (quoted : Bool) (command : Command)
  | arithmetic (quoted : Bool) (expression : List Piece)

/-- A redirection of a descriptor. -/
inductive Redirection where
  | file (fd : Nat) (opening : Opening) (name : List Piece)
  /-- The descriptor becomes what another one is, or is closed. -/
  | copy (fd : Nat) (reading : Bool) (source : List Piece)
  /-- The descriptor is read from a document in the script, known by its number. -/
  | document (fd : Nat) (number : Nat)

/-- A command.  The number of the line it begins in is told where messages may show
it. -/
inductive Command where
  | nothing
  | simple (line : Nat) (assignments words : List (List Piece)) (redirections : List Redirection)
  | pipeline (commands : List Command) (background : Bool)
  | redirected (line : Nat) (command : Command) (redirections : List Redirection)
  | background (line : Nat) (command : Command) (redirections : List Redirection)
  | subshell (line : Nat) (command : Command) (redirections : List Redirection)
  | and (first second : Command)
  | or (first second : Command)
  | sequence (first second : Command)
  | negation (command : Command)
  | conditional (test good bad : Command)
  /-- Repeats the body as long as the test is good, or as it is bad. -/
  | loop (whileGood : Bool) (test body : Command)
  | each (line : Nat) (variableName : Bytes) (words : List (List Piece)) (body : Command)
  | choice (line : Nat) (word : List Piece) (cases : List Case)
  | function (name : Bytes) (body : Command)

/-- What is done if a word matches one of some patterns. -/
inductive Case where
  | of (patterns : List (List Piece)) (body : Command)

end

/-- The words that have a meaning of their own where a command begins. -/
def keywords : List String :=
  ["!", "case", "do", "done", "elif", "else", "esac", "fi", "for", "if", "in", "then", "until",
    "while", "\x7b", "\x7d"]

/-- The commands that end the shell if they are used wrongly. -/
def specialNames : List String :=
  [".", ":", "break", "continue", "eval", "exec", "exit", "export", "local", "readonly", "return",
    "set", "shift", "times", "trap", "unset"]

/-- What is written without blanks between. -/
abbrev Word := List Piece

instance : Inhabited Command := ⟨.nothing⟩

/-- Whether a byte can begin a name. -/
def beginsName (b : UInt8) : Bool :=
  isAlpha b || b == 0x5F

/-- Whether a byte can be in a name. -/
def isInName (b : UInt8) : Bool :=
  isAlnum b || b == 0x5F

/-- The name at the beginning of a text; it may be empty. -/
def nameIn (text : Bytes) : Bytes :=
  if text.head?.any beginsName then text.takeWhile isInName else []

def isName (text : Bytes) : Bool :=
  !text.isEmpty && nameIn text == text

/-- Whether a byte is the name of a special parameter. -/
def isSpecialName (b : UInt8) : Bool :=
  [0x21, 0x23, 0x24, 0x2A, 0x2D, 0x3F, 0x40].contains b || isDigit b

/-- The text of a word that holds nothing else, without quotes. -/
def plainWord? : Word → Option Bytes
  | [] => some []
  | [.bytes false text] => some text
  | _ => none

/-- Whether a word begins with a name and an equals sign. -/
def isAssignment : Word → Bool
  | .bytes false text :: _ =>
      let name := nameIn text
      !name.isEmpty && (text.drop name.length).head? == some 0x3D
  | _ => false

end PipeShell.Userland.Shell

import PipeShell.Text.Utf8
import PipeShell.Token

/-!
# The tokens of a line

Blanks separate words, and an operator is a token wherever it stands outside
quotes.  A quote may open anywhere, in the middle of a word too; up to the
next quote of the same kind every character stands for itself, and what
follows the closing quote still belongs to the same word.  So `''` is a word
without characters, and a line is refused exactly when a quote stays open.

The scan is a fold over the characters of the line: `Scan.step` reads one
character, and `Scan.finish` gives the tokens at the end.
-/

namespace PipeShell

/-- Why a line gives no tokens. -/
inductive LineError where
  | unfinishedQuote
  | invalidUtf8
  deriving DecidableEq, Repr

def LineError.message : LineError → String
  | .unfinishedQuote => "unfinished quote"
  | .invalidUtf8 => "input line is not valid UTF-8"

/-- The two kinds of quotes; neither ends the other. -/
inductive Quote where
  | single
  | double
  deriving DecidableEq, Repr

def Quote.mark : Quote → Char
  | .single => '\''
  | .double => '"'

/-- What a character means outside quotes. -/
inductive CharClass where
  | blank
  | operator (t : Token)
  | quote (q : Quote)
  | plain
  deriving DecidableEq, Repr

/-- Space, tab, carriage return and line feed are blanks, and no others. -/
def CharClass.ofChar (c : Char) : CharClass :=
  if c = ' ' ∨ c = '\t' ∨ c = '\r' ∨ c = '\n' then .blank
  else if c = '|' then .operator .pipe
  else if c = '<' then .operator .readFrom
  else if c = '>' then .operator .writeTo
  else if c = '\'' then .quote .single
  else if c = '"' then .quote .double
  else .plain

/-- What the scan of a line is in the middle of. -/
inductive Reading where
  /-- No word has begun. -/
  | between
  /-- A word, of which this much has been read. -/
  | word (text : String)
  /-- A word, inside quotes. -/
  | quoted (q : Quote) (text : String)
  deriving DecidableEq, Repr

/-- The state of a scan: the tokens completed, and what is being read. -/
structure Scan where
  tokens : Array Token
  reading : Reading

namespace Scan

/-- Before the first character of a line. -/
def start : Scan :=
  ⟨#[], .between⟩

/-- Ends the word being read, if there is one. -/
def endWord (s : Scan) : Scan :=
  match s.reading with
  | .word text => ⟨s.tokens.push (.word text), .between⟩
  | _ => s

/-- The word being read, or the empty beginning of a new one. -/
def text (s : Scan) : String :=
  match s.reading with
  | .between => ""
  | .word text => text
  | .quoted _ text => text

/-- Reads a character that stands outside quotes. -/
def stepOpen (s : Scan) (c : Char) : Scan :=
  match CharClass.ofChar c with
  | .blank => s.endWord
  | .operator t => let ended := s.endWord; ⟨ended.tokens.push t, ended.reading⟩
  | .quote q => ⟨s.tokens, .quoted q s.text⟩
  | .plain => ⟨s.tokens, .word (s.text.push c)⟩

/-- Reads one character. -/
def step (s : Scan) (c : Char) : Scan :=
  match s.reading with
  | .quoted q text =>
      if c = q.mark then ⟨s.tokens, .word text⟩
      else ⟨s.tokens, .quoted q (text.push c)⟩
  | _ => s.stepOpen c

/-- The tokens at the end of the line. -/
def finish (s : Scan) : Except LineError (List Token) :=
  match s.reading with
  | .quoted _ _ => .error .unfinishedQuote
  | _ => .ok s.endWord.tokens.toList

end Scan

/-- The tokens of a line, in order. -/
def Token.ofLine (line : String) : Except LineError (List Token) :=
  (line.toList.foldl Scan.step Scan.start).finish

/-- The tokens of a line that arrives as bytes. -/
def Token.ofBytes (bytes : Bytes) : Except LineError (List Token) :=
  match Utf8.decode? bytes with
  | some line => Token.ofLine line
  | none => .error .invalidUtf8

end PipeShell

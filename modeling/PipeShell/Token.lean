/-!
# Tokens

A line holds words, pipes and redirections.  Reading goes line by line, so a
stream of tokens also shows where a line ends and where the whole input does.
-/

namespace PipeShell

/-- What a line is made of. -/
inductive Token where
  | word (text : String)
  /-- The pipe `|` between two stages. -/
  | pipe
  /-- The redirection `<` of the input. -/
  | readFrom
  /-- The redirection `>` of the output. -/
  | writeTo
  deriving DecidableEq, Repr

/-- The two ways for a line to end. -/
inductive LineEnd where
  | newline
  | endOfInput
  deriving DecidableEq, Repr

/-- What a stream of tokens gives: a token of the current line, or its end. -/
inductive Symbol where
  | token (t : Token)
  | lineEnd (e : LineEnd)
  deriving DecidableEq, Repr

/-- Whether nothing of the line comes behind the symbol. -/
def Symbol.endsLine : Symbol → Bool
  | .token _ => false
  | .lineEnd _ => true

end PipeShell

import PipeShell.Userland.Shell.Words

/-!
# Reading commands

The grammar of the shell.  A list of commands may stand in a command, and a command in
a list, so the grammar is written for a level of nesting, given the readers of the
level below; `readerOf` puts the levels together.

Words that begin a command are taken for keywords and for aliases; which of the two a
token may be is told by the `Checks` with which it is taken.
-/

namespace PipeShell.Userland.Shell

/-- What a token may be. -/
structure Checks where
  /-- Whether the ends of lines in front of it are skipped. -/
  newlines : Bool
  keywords : Bool
  aliases : Bool
  /-- Whether it is the mark of a document. -/
  mark : Bool

namespace Checks

/-- A token that is only what it is. -/
def plain : Checks := ⟨false, false, false, false⟩

/-- A token where a command begins. -/
def first : Checks := ⟨true, true, true, false⟩

/-- A token where a command begins or goes on in the same line. -/
def here : Checks := ⟨false, true, true, false⟩

/-- A word in front of which there are only assignments. -/
def simple : Checks := ⟨false, false, true, false⟩

/-- A pattern of a choice, or the end of the choice. -/
def pattern : Checks := ⟨true, true, false, false⟩

/-- The mark of a document. -/
def ofMark : Checks := ⟨false, false, false, true⟩

end Checks

/-- What kinds of lists there are. -/
inductive ListKind where
  /-- The commands of a line. -/
  | line
  /-- Commands in another one, at least one of them. -/
  | inner
  /-- Commands whose output is substituted; there may be none. -/
  | substituted
  deriving DecidableEq

/-- The readers of what may stand in a command. -/
structure Nested where
  list : ListKind → Reading (Option Command)
  /-- Reads a command of which the first token is taken with these checks. -/
  command : Checks → Reading Command

/-- A command that may be missing. -/
def orNothing (command : Option Command) : Command :=
  command.getD .nothing

/-- The text of a word without the expansions in it. -/
def bareText (word : Word) : Bytes :=
  word.flatMap fun
    | .bytes _ text => text
    | _ => []

namespace Reading

/-- Skips a comment. -/
def skipComment : Nat → Reading Unit
  | 0 => return ()
  | limit + 1 => do
      let b ← next
      if b.isNone || b == some 0x0A then back b else skipComment limit

/-- The first byte of the next token. -/
def tokenStart : Nat → Reading (Option UInt8)
  | 0 => return none
  | limit + 1 => do
      let b ← joined
      if b.any isBlank then tokenStart limit
      else if b == some 0x23 then
        skipComment byteLimit
        tokenStart limit
      else return b

/-- One of two tokens: the second if the next byte is the one given. -/
def oneOrTwo (byte : UInt8) (one two : Token) : Reading Token := do
  let b ← joined
  if b == some byte then return two
  back b
  return one

/-- The list that is substituted.  In backquotes it is all that is read; elsewhere a
parenthesis has to follow. -/
def substitution (nested : Nested) (documents : Reading Unit) (inBackquotes : Bool) :
    Reading Command := do
  let awaited := (← get).awaited
  modify fun d ↦ { d with awaited := [] }
  let command ← nested.list .substituted
  unless inBackquotes do
    unless (← get).token = .closing do unexpected (some .closing)
    modify fun d ↦ { d with again := false }
    within [] documents
  modify fun d ↦ { d with awaited }
  return orNothing command

/-- Reads the documents that are still to be read, of which none has a document in
it whose text comes later. -/
def innerDocuments (nested : Nested) : Reading Unit := do
  let awaited := (← get).awaited
  modify fun d ↦ { d with awaited := [] }
  for a in awaited do document (substitution nested (return ())) a

/-- Reads the documents that are still to be read. -/
def documents (nested : Nested) : Reading Unit := do
  let awaited := (← get).awaited
  modify fun d ↦ { d with awaited := [] }
  for a in awaited do document (substitution nested (innerDocuments nested)) a

/-- The next token, as it is. -/
def rawToken (nested : Nested) (isMark : Bool) : Reading Token := do
  if (← get).again then
    modify fun d ↦ { d with again := false }
    return (← get).token
  let token ←
    match ← tokenStart byteLimit with
    | none => pure .endOfInput
    | some 0x0A =>
        countLine
        pure .newline
    | some 0x26 => oneOrTwo 0x26 .background .and
    | some 0x7C => oneOrTwo 0x7C .pipe .or
    | some 0x3B => oneOrTwo 0x3B .semicolon .endOfCase
    | some 0x28 => pure .opening
    | some 0x29 => pure .closing
    | b => wordToken (substitution nested (documents nested)) isMark b
  modify fun d ↦ { d with token }
  return token

/-- The first token that is not the end of a line. -/
def skipNewlines (nested : Nested) : Nat → Token → Reading Token
  | limit + 1, .newline => do
      documents nested
      skipNewlines nested limit (← rawToken nested false)
  | _, token => return token

/-- The next token; the limit bounds the aliases that stand for others. -/
def takeToken (nested : Nested) (checks : Checks) (limit : Nat) : Reading Token := do
  let token ← rawToken nested checks.mark
  let token ← if checks.newlines then skipNewlines nested byteLimit token else pure token
  let d ← get
  let checks := { checks with aliases := checks.aliases || d.afterBlank }
  set { d with afterBlank := false }
  if token ≠ .word || d.quoted then return token
  match plainWord? d.word, limit with
  | some text, limit + 1 =>
      let name := nameOfBytes text
      if checks.keywords && keywords.contains name then
        modify fun d ↦ { d with token := .keyword name }
        return .keyword name
      if checks.aliases then
        if let some value := d.alias? text then
          modify (·.insert text value)
          return ← takeToken nested checks limit
      return .word
  | _, _ => return .word

/-- The next token. -/
def take (nested : Nested) (checks : Checks) : Reading Token :=
  takeToken nested checks byteLimit

/-- Takes a token that has to be there. -/
def expect (nested : Nested) (checks : Checks) (token : Token) : Reading Unit := do
  unless (← take nested checks) = token do unexpected (some token)

/-- Reads what follows the sign of a redirection. -/
def redirection (nested : Nested) : Reading Redirection := do
  let sign := (← get).redirecting
  let checks := if sign matches .document _ _ then Checks.ofMark else Checks.plain
  unless (← take nested checks) = .word do unexpected none
  let d ← get
  match sign with
  | .file fd opening => return .file fd opening d.word
  | .copy fd reading => return .copy fd reading d.word
  | .document fd untabbed =>
      let number := d.documents.size
      let a : Awaited := ⟨number, bareText d.word, d.quoted, untabbed⟩
      set { d with documents := d.documents.push [], awaited := d.awaited ++ [a] }
      return .document fd number

/-- Reads the redirections behind a command. -/
def redirections (nested : Nested) : Nat → List Redirection → Reading (List Redirection)
  | 0, found => return found
  | limit + 1, found => do
      if (← take nested .here) = .redirection then
        redirections nested limit (found ++ [← redirection nested])
      else
        tokenBack
        return found

/-- A command that is words, of which some have been read. -/
structure SimpleDraft where
  assignments : List Word
  words : List Word
  redirections : List Redirection

/-- Reads a command that is words, or the definition of a function. -/
def simpleFrom (nested : Nested) (line : Nat) : Nat → SimpleDraft → Reading Command
  | 0, _ => return .nothing
  | limit + 1, s => do
      let assigning := s.words.isEmpty
      let token ← take nested (if assigning then .simple else .plain)
      let d ← get
      let finish : Reading Command := do
        tokenBack
        return .simple line s.assignments s.words s.redirections
      match token with
      | .word =>
          if assigning && isAssignment d.word then
            simpleFrom nested line limit { s with assignments := s.assignments ++ [d.word] }
          else simpleFrom nested line limit { s with words := s.words ++ [d.word] }
      | .redirection =>
          let r ← redirection nested
          simpleFrom nested line limit { s with redirections := s.redirections ++ [r] }
      | .opening =>
          match s.words with
          | [word] =>
              if !s.assignments.isEmpty || !s.redirections.isEmpty then finish
              else
                expect nested .plain .closing
                let name := (plainWord? word).getD []
                if !isName name || specialNames.contains (nameOfBytes name) then
                  fail "Bad function name"
                return .function name (← nested.command .first)
          | _ => finish
      | _ => finish

/-- Reads the rest of a condition. -/
def conditional (nested : Nested) : Nat → Reading Command
  | 0 => return .nothing
  | limit + 1 => do
      let test ← nested.list .inner
      expect nested .plain (.keyword "then")
      let good ← nested.list .inner
      let token ← take nested .plain
      let bad ←
        if token = .keyword "elif" then conditional nested limit
        else if token = .keyword "else" then pure (orNothing (← nested.list .inner))
        else
          tokenBack
          pure .nothing
      return .conditional (orNothing test) (orNothing good) bad

/-- Reads words up to the end of their row. -/
def wordsOfEach (nested : Nested) : Nat → List Word → Reading (List Word)
  | 0, found => return found
  | limit + 1, found => do
      let token ← take nested .plain
      if token = .word then wordsOfEach nested limit (found ++ [(← get).word])
      else
        unless token = .newline || token = .semicolon do unexpected none
        return found

/-- Reads what is done for each of some words. -/
def each (nested : Nested) (line : Nat) : Reading Command := do
  let token ← take nested .plain
  let d ← get
  let name := (plainWord? d.word).getD []
  if token ≠ .word || d.quoted || !isName name then fail "Bad for loop variable"
  let token ← take nested .first
  let words ←
    if token = .keyword "in" then wordsOfEach nested byteLimit []
    else
      unless token = .semicolon do tokenBack
      pure [[.parameter true [0x40] .plain []]]
  expect nested .first (.keyword "do")
  let body ← nested.list .inner
  return .each line name words (orNothing body)

/-- Reads the patterns of a case. -/
def patterns (nested : Nested) : Nat → List Word → Reading (List Word)
  | 0, found => return found
  | limit + 1, found => do
      let found := found ++ [(← get).word]
      if (← take nested .plain) = .pipe then
        let _ ← take nested .plain
        patterns nested limit found
      else return found

/-- Reads the cases of a choice. -/
def cases (nested : Nested) : Nat → List Case → Reading (List Case)
  | 0, found => return found
  | limit + 1, found => do
      let token ← take nested .pattern
      if token = .keyword "esac" then return found
      if token = .opening then
        let _ ← take nested .plain
      let words ← patterns nested byteLimit []
      unless (← get).token = .closing do unexpected (some .closing)
      let body ← nested.list .substituted
      let found := found ++ [.of words (orNothing body)]
      let token ← take nested .pattern
      if token = .keyword "esac" then return found
      unless token = .endOfCase do unexpected (some .endOfCase)
      cases nested limit found

/-- Reads a choice. -/
def choice (nested : Nested) (line : Nat) : Reading Command := do
  unless (← take nested .plain) = .word do unexpected (some .word)
  let word := (← get).word
  expect nested .first (.keyword "in")
  return .choice line word (← cases nested byteLimit [])

/-- Reads a command. -/
def commandFrom (nested : Nested) (checks : Checks) : Reading Command := do
  let line := (← get).line
  let closed (command : Command) (token : Token) : Reading Command := do
    expect nested .plain token
    return command
  let body : Reading Command := do return orNothing (← nested.list .inner)
  let command ←
    match ← take nested checks with
    | .keyword "if" => closed (← conditional nested byteLimit) (.keyword "fi")
    | .keyword "while" => repeated true body
    | .keyword "until" => repeated false body
    | .keyword "for" => closed (← each nested line) (.keyword "done")
    | .keyword "case" => choice nested line
    | .opening => closed (.subshell line (← body) []) .closing
    | .keyword "\x7b" => closed (← body) (.keyword "\x7d")
    | .word | .redirection =>
        tokenBack
        return ← simpleFrom nested (← get).line byteLimit ⟨[], [], []⟩
    | _ => unexpected none
  match ← redirections nested byteLimit [], command with
  | [], _ => return command
  | rs, .subshell line inner _ => return .subshell line inner rs
  | rs, _ => return .redirected line command rs
where
  /-- Reads a loop. -/
  repeated (whileGood : Bool) (body : Reading Command) : Reading Command := do
    let test ← body
    expect nested .plain (.keyword "do")
    let inner ← body
    expect nested .plain (.keyword "done")
    return .loop whileGood test inner

/-- Takes the first token of a command and lets it be read again. -/
def begin (nested : Nested) (checks : Checks) : Reading Unit := do
  let _ ← take nested checks
  tokenBack

/-- Reads commands between signs of pipes. -/
def pipeFrom (nested : Nested) : Nat → List Command → Reading (List Command)
  | 0, found => return found
  | limit + 1, found => do
      if (← take nested .plain) = .pipe then
        pipeFrom nested limit (found ++ [← commandFrom nested .first])
      else
        tokenBack
        return found

/-- Reads a pipeline. -/
def pipeline (nested : Nested) : Reading Command := do
  let negated := (← take nested .plain) = .keyword "!"
  unless negated do tokenBack
  let first ← commandFrom nested (if negated then .here else .plain)
  let command ←
    match ← pipeFrom nested byteLimit [first] with
    | [_] => pure first
    | commands => pure (.pipeline commands false)
  return if negated then .negation command else command

/-- Reads pipelines of which one depends on what the ones before have come to. -/
def dependent (nested : Nested) : Nat → Command → Reading Command
  | 0, first => return first
  | limit + 1, first => do
      let token ← take nested .plain
      if token = .and || token = .or then
        begin nested .first
        let second ← pipeline nested
        dependent nested limit (if token = .and then .and first second else .or first second)
      else
        tokenBack
        return first

/-- The command that does not wait for another one. -/
def inBackground : Command → Command
  | .pipeline commands _ => .pipeline commands true
  | .redirected line command redirections => .background line command redirections
  | command => .background 0 command []

/-- Reads a list of commands. -/
def listFrom (nested : Nested) (kind : ListKind) :
    Nat → Option Command → Reading (Option Command)
  | 0, found => return found
  | limit + 1, found => do
      let token ← take nested (if kind = .line then .here else .first)
      if token = .newline then
        documents nested
        return found
      if token = .endOfInput then
        documents nested
        tokenBack
        modify fun d ↦ { d with token := .endOfInput }
        return found
      tokenBack
      let mayEnd := kind = .substituted || (kind = .inner && found.isSome)
      if mayEnd && token.endsList then return found
      let command ← dependent nested byteLimit (← pipeline nested)
      let token ← take nested .plain
      let command := if token = .background then inBackground command else command
      let found : Option Command :=
        some (match found with
          | none => command
          | some before => .sequence before command)
      match token with
      | .endOfInput =>
          documents nested
          tokenBack
          modify fun d ↦ { d with token := .endOfInput }
          return found
      | .newline =>
          tokenBack
          listFrom nested kind limit found
      | .background | .semicolon => listFrom nested kind limit found
      | _ =>
          if kind = .line then unexpected none
          tokenBack
          return found

end Reading

/-- The readers of commands that are nested at most so deeply. -/
def readerOf : Nat → Nested
  | 0 =>
      let refused {α : Type} : Reading α := Reading.fail "commands nested too deeply"
      ⟨fun _ ↦ refused, fun _ ↦ refused⟩
  | depth + 1 =>
      let nested := readerOf depth
      ⟨fun kind ↦ Reading.listFrom nested kind byteLimit none, Reading.commandFrom nested⟩

/-- The depth to which commands may be nested. -/
def nestingLimit : Nat := 1000

/-- The readers of all commands. -/
def reader : Nested :=
  readerOf nestingLimit

/-- Reads a text in which parameters and commands stand for what they are, as in a
document. -/
def expandableText (text : Bytes) : Reading Word :=
  Reading.within text do
    let substitution := Reading.substitution reader (Reading.documents reader)
    let mark : Mark := ⟨[0], false⟩
    let first ← Reading.joined
    let start : WordDraft := .start .double true
    let (w, _) ← Reading.wordFrom substitution (some mark) false byteLimit start first
    return settled false w.pieces.reverse

/-- What has been read of a script. -/
inductive Parsed where
  | endOfScript
  /-- A line with its command, if it has one; `last` says whether nothing follows. -/
  | line (command : Option Command) (last : Bool)

/-- Reads the next line of a script that has a command. -/
def parseLine : Reading Parsed := do
  modify fun d ↦ { d with again := false, awaited := [], afterBlank := false }
  let command ← reader.list .line
  let d ← get
  let last := d.again && d.token = .endOfInput
  if command.isNone && last then return .endOfScript
  return .line command last

end PipeShell.Userland.Shell

import PipeShell.Line.Source
import PipeShell.Token.OfLine

/-!
# Streams of tokens

`SymbolSource` is what a reader of commands asks for: the next symbol, line
after line.  Every line is finite, and `ahead` bounds what is left of it.

`TokenStream` turns a source of lines into such a stream.  It reads a line only
when all symbols of the line before have been handed out.  A line that gives no
tokens counts as an empty one, and its error is kept until it is asked for.
The end of the input or a failure of the source is final: nothing is read
after it.
-/

namespace PipeShell

/-- Streams of symbols, by their state. -/
class SymbolSource (τ : Type u) where
  next : τ → Symbol × τ
  /-- A bound on the tokens left of the current line. -/
  ahead : τ → Nat
  ahead_next : ∀ s t, (next s).1 = .token t → ahead (next s).2 < ahead s

/-- A queue of symbols; when it is empty the input is at its end. -/
def nextOfQueue : List Symbol → Symbol × List Symbol
  | [] => (.lineEnd .endOfInput, [])
  | s :: rest => (s, rest)

instance : SymbolSource (List Symbol) where
  next := nextOfQueue
  ahead := List.length
  ahead_next
    | [], _, h => by simp [nextOfQueue] at h
    | _ :: _, _, _ => by simp [nextOfQueue]

/-- A source of lines and what has been read from it but not handed out. -/
structure TokenStream (σ : Type u) where
  source : σ
  /-- The tokens left of the line read last, before its newline. -/
  line : Option (List Token)
  /-- The errors of the lines that gave no tokens, oldest first. -/
  rejected : Array LineError
  /-- Whether the source has ended or failed. -/
  finished : Bool
  /-- The failure of the source, until it is taken. -/
  failure : Option Failure

namespace TokenStream

variable {σ : Type u}

/-- A stream from which nothing has been read. -/
def ofSource (source : σ) : TokenStream σ :=
  ⟨source, none, #[], false, none⟩

/-- Reads one line from the source. -/
def load [LineSource σ] (s : TokenStream σ) : TokenStream σ :=
  match LineSource.readLine s.source with
  | (.line bytes, source) =>
      match Token.ofBytes bytes with
      | .ok tokens => { s with source, line := some tokens }
      | .error e => { s with source, line := some [], rejected := s.rejected.push e }
  | (.endOfInput, source) => { s with source, finished := true }
  | (.failure cause, source) =>
      { s with source, finished := true, failure := some cause }

/-- Reads a line if none is under way and the source has not ended. -/
def ready [LineSource σ] (s : TokenStream σ) : TokenStream σ :=
  if s.line.isNone && !s.finished then s.load else s

/-- Hands out the next symbol of what has been read. -/
def give (s : TokenStream σ) : Symbol × TokenStream σ :=
  match s.line with
  | some (t :: tokens) => (.token t, { s with line := some tokens })
  | some [] => (.lineEnd .newline, { s with line := none })
  | none => (.lineEnd .endOfInput, s)

/-- The next symbol. -/
def next [LineSource σ] (s : TokenStream σ) : Symbol × TokenStream σ :=
  s.ready.give

/-- The errors recorded since they were last taken. -/
def takeRejected (s : TokenStream σ) : List LineError × TokenStream σ :=
  (s.rejected.toList, { s with rejected := #[] })

/-- The failure of the source, the first time it is asked for. -/
def takeFailure (s : TokenStream σ) : Option Failure × TokenStream σ :=
  (s.failure, { s with failure := none })

theorem ready_of_line [LineSource σ] {s : TokenStream σ} {tokens : List Token}
    (h : s.line = some tokens) : s.ready = s := by
  simp [ready, h]

instance [LineSource σ] : SymbolSource (TokenStream σ) where
  next := next
  ahead s := (s.ready.line.getD []).length
  ahead_next s t h := by
    unfold next give at h ⊢
    split at h <;> simp_all
    next tokens hline =>
      rw [ready_of_line (s := { s.ready with line := some tokens }) rfl]
      simp

end TokenStream

end PipeShell

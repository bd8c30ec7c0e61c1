import PipeShell.Token.Stream

/-!
# Cursors

A cursor takes symbols from a stream one at a time.  It can look at a symbol before the
symbol's turn comes, and it remembers whether the symbol taken last was the end of a line,
so that what is left of a line can be skipped without running into the next one.
-/

namespace PipeShell

/-- A stream, and the symbol that has been looked at but not taken. -/
structure Cursor (τ : Type u) where
  stream : τ
  peeked : Option Symbol
  /-- Whether the symbol taken last ended its line. -/
  atLineEnd : Bool

namespace Cursor

variable {τ : Type u}

/-- A cursor that has taken nothing. -/
def ofStream (s : τ) : Cursor τ :=
  ⟨s, none, false⟩

variable [SymbolSource τ]

/-- Takes the next symbol. -/
def next (c : Cursor τ) : Symbol × Cursor τ :=
  match c.peeked with
  | some x => (x, ⟨c.stream, none, x.endsLine⟩)
  | none =>
      let (x, rest) := SymbolSource.next c.stream
      (x, ⟨rest, none, x.endsLine⟩)

/-- Looks at the next symbol and leaves it where it is. -/
def peek (c : Cursor τ) : Symbol × Cursor τ :=
  match c.peeked with
  | some x => (x, c)
  | none =>
      let (x, rest) := SymbolSource.next c.stream
      (x, { c with stream := rest, peeked := some x })

/-- A bound on the tokens left of the current line. -/
def ahead (c : Cursor τ) : Nat :=
  SymbolSource.ahead c.stream + if c.peeked.isSome then 1 else 0

theorem ahead_next (c : Cursor τ) (t : Token) (h : c.next.1 = .token t) :
    c.next.2.ahead < c.ahead := by
  obtain ⟨stream, peeked, atLineEnd⟩ := c
  cases peeked with
  | some x => simp [next, ahead]
  | none => simpa [next, ahead] using SymbolSource.ahead_next stream t h

instance : SymbolSource (Cursor τ) where
  next := next
  ahead := ahead
  ahead_next := ahead_next

theorem atLineEnd_next (c : Cursor τ) : c.next.2.atLineEnd = c.next.1.endsLine := by
  unfold next
  split <;> rfl

/-- Skips what is left of the line. -/
def finishLine (c : Cursor τ) : Cursor τ :=
  if c.atLineEnd then c else c.next.2.finishLine
termination_by if c.atLineEnd then 0 else c.ahead + 1
decreasing_by
  rename_i hgoes
  rw [if_neg hgoes]
  split
  · exact Nat.succ_pos _
  · next hnext =>
      -- A token came, so there is one less to come.
      cases hsymbol : c.next.1 with
      | token t => exact Nat.succ_lt_succ (c.ahead_next t hsymbol)
      | lineEnd e => exact absurd (by rw [atLineEnd_next, hsymbol]; rfl) hnext

end Cursor

end PipeShell

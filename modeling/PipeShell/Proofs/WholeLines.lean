import PipeShell.Command.Reader

/-!
# Lines taken whole

`SymbolSource.takeLine` asks for symbols until a line ends.  On a queue it takes
the symbols up to the first line end; on a stream of tokens between two lines it
takes what one reading of the source gives, and nothing of the lines behind it.
-/

namespace PipeShell

namespace SymbolSource

variable {τ : Type u} [SymbolSource τ]

/-- The tokens up to the end of the current line, that end, and the stream
behind it. -/
def takeLine (s : τ) : List Token × LineEnd × τ :=
  match _h : next s with
  | (.token t, rest) =>
      let line := takeLine rest
      (t :: line.1, line.2)
  | (.lineEnd e, rest) => ([], e, rest)
termination_by ahead s
decreasing_by
  have hnext := ahead_next s t (by rw [_h])
  rwa [_h] at hnext

theorem takeLine_of_token {s rest : τ} {t : Token} (h : next s = (.token t, rest)) :
    takeLine s = (t :: (takeLine rest).1, (takeLine rest).2) := by
  rw [takeLine]
  split <;> simp_all

theorem takeLine_of_lineEnd {s rest : τ} {e : LineEnd} (h : next s = (.lineEnd e, rest)) :
    takeLine s = ([], e, rest) := by
  rw [takeLine]
  split <;> simp_all

/-- Only the next symbol and what comes behind it matter. -/
theorem takeLine_congr {s s' : τ} (h : next s = next s') : takeLine s = takeLine s' := by
  obtain ⟨⟨x, rest⟩, hnext⟩ : ∃ p, next s = p := ⟨_, rfl⟩
  have hnext' : next s' = (x, rest) := h.symm.trans hnext
  cases x with
  | token t => rw [takeLine_of_token hnext, takeLine_of_token hnext']
  | lineEnd e => rw [takeLine_of_lineEnd hnext, takeLine_of_lineEnd hnext']

theorem takeLine_queue (t : List Token) (e : LineEnd) (rest : List Symbol) :
    takeLine (t.map Symbol.token ++ .lineEnd e :: rest) = (t, e, rest) := by
  induction t with
  | nil =>
      have hnext : next (Symbol.lineEnd e :: rest) = (.lineEnd e, rest) := rfl
      exact takeLine_of_lineEnd hnext
  | cons a t ih =>
      have hnext : next (Symbol.token a :: (t.map Symbol.token ++ .lineEnd e :: rest)) =
          (.token a, t.map Symbol.token ++ .lineEnd e :: rest) := rfl
      rw [List.map_cons, List.cons_append, takeLine_of_token hnext, ih]

end SymbolSource

/-- The symbols of a line that ends with its newline. -/
def Symbol.ofLine (t : List Token) : List Symbol :=
  t.map .token ++ [.lineEnd .newline]

theorem SymbolSource.takeLine_ofLine (t : List Token) (rest : List Symbol) :
    takeLine (Symbol.ofLine t ++ rest) = (t, .newline, rest) := by
  simpa [Symbol.ofLine] using takeLine_queue t .newline rest

namespace TokenStream

open SymbolSource (takeLine takeLine_congr takeLine_of_token takeLine_of_lineEnd)

variable {σ : Type u} [LineSource σ]

/-- The rest of a line under way is taken without reading another one. -/
theorem takeLine_of_line {s : TokenStream σ} {tokens : List Token}
    (h : s.line = some tokens) : takeLine s = (tokens, .newline, { s with line := none }) := by
  induction tokens generalizing s with
  | nil =>
      have hnext : SymbolSource.next s = (.lineEnd .newline, { s with line := none }) := by
        change s.ready.give = _
        rw [ready_of_line h, give, h]
      exact takeLine_of_lineEnd hnext
  | cons t tokens ih =>
      have hnext : SymbolSource.next s = (.token t, { s with line := some tokens }) := by
        change s.ready.give = _
        rw [ready_of_line h, give, h]
      rw [takeLine_of_token hnext, ih rfl]

/-- Between two lines, the line taken is the one that has been read. -/
theorem takeLine_of_ready {s : TokenStream σ} {tokens : List Token}
    (h : s.ready.line = some tokens) :
    takeLine s = (tokens, .newline, { s.ready with line := none }) := by
  have hnext : SymbolSource.next s = SymbolSource.next s.ready := by
    change s.ready.give = s.ready.ready.give
    rw [ready_of_line h]
  rw [takeLine_congr hnext, takeLine_of_line h]

theorem takeLine_of_ended {s : TokenStream σ} (h : s.ready.line = none) :
    takeLine s = ([], .endOfInput, s.ready) := by
  have hnext : SymbolSource.next s = (.lineEnd .endOfInput, s.ready) := by
    change s.ready.give = _
    rw [give, h]
  exact takeLine_of_lineEnd hnext

/-! ## The line that one reading gives -/

variable {s : TokenStream σ} {source : σ} {bytes : Bytes}

theorem ready_of_between (hline : s.line = none) (hgoes : s.finished = false) :
    s.ready = s.load := by
  simp [ready, hline, hgoes]

theorem takeLine_line {tokens : List Token} (hline : s.line = none)
    (hgoes : s.finished = false)
    (hread : LineSource.readLine s.source = (.line bytes, source))
    (htokens : Token.ofBytes bytes = .ok tokens) :
    takeLine s = (tokens, .newline, { s with source }) := by
  have hready : s.ready = { s with source, line := some tokens } := by
    rw [ready_of_between hline hgoes, load, hread]
    simp [htokens]
  rw [takeLine_of_ready (by rw [hready]), hready, ← hline]

theorem takeLine_rejected {e : LineError} (hline : s.line = none)
    (hgoes : s.finished = false)
    (hread : LineSource.readLine s.source = (.line bytes, source))
    (htokens : Token.ofBytes bytes = .error e) :
    takeLine s = ([], .newline, { s with source, rejected := s.rejected.push e }) := by
  have hready : s.ready =
      { s with source, line := some [], rejected := s.rejected.push e } := by
    rw [ready_of_between hline hgoes, load, hread]
    simp [htokens]
  rw [takeLine_of_ready (by rw [hready]), hready, ← hline]

theorem takeLine_endOfInput (hline : s.line = none) (hgoes : s.finished = false)
    (hread : LineSource.readLine s.source = (.endOfInput, source)) :
    takeLine s = ([], .endOfInput, { s with source, finished := true }) := by
  have hready : s.ready = { s with source, finished := true } := by
    rw [ready_of_between hline hgoes, load, hread]
  rw [takeLine_of_ended (by rw [hready]; exact hline), hready]

theorem takeLine_failure {cause : Failure} (hline : s.line = none)
    (hgoes : s.finished = false)
    (hread : LineSource.readLine s.source = (.failure cause, source)) :
    takeLine s =
      ([], .endOfInput, { s with source, finished := true, failure := some cause }) := by
  have hready : s.ready = { s with source, finished := true, failure := some cause } := by
    rw [ready_of_between hline hgoes, load, hread]
  rw [takeLine_of_ended (by rw [hready]; exact hline), hready]

theorem takeLine_finished (hline : s.line = none) (hended : s.finished = true) :
    takeLine s = ([], .endOfInput, s) := by
  have hready : s.ready = s := by
    simp [ready, hended]
  rw [takeLine_of_ended (by rw [hready]; exact hline), hready]

end TokenStream

end PipeShell

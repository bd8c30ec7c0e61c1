import PipeShell.Proofs.WholeLines

/-!
# Token by token

A command reader goes through a line with a cursor, stops at the first token that cannot
follow, and skips what is left.  This comes to what the whole line comes to: its tokens,
folded into a phase one after the other, and its end, which turns the phase into a command.
So a reading takes the line that a source has next, whatever becomes of it.
-/

namespace PipeShell

open SymbolSource (takeLine takeLine_congr takeLine_of_token takeLine_of_lineEnd)

variable {τ : Type u} [SymbolSource τ]

/-! ## A cursor on a line -/

namespace Cursor

/-- Looking at a symbol does not change what is taken next. -/
theorem next_of_peek {c peeked : Cursor τ} {x : Symbol} (h : c.peek = (x, peeked)) :
    c.next = (x, peeked.next.2) ∧ peeked.next = c.next := by
  obtain ⟨stream, symbol, atLineEnd⟩ := c
  cases symbol with
  | some y =>
      obtain ⟨rfl, rfl⟩ := Prod.mk.inj h
      exact ⟨rfl, rfl⟩
  | none =>
      obtain ⟨rfl, rfl⟩ := Prod.mk.inj h
      exact ⟨rfl, rfl⟩

/-- With nothing looked at, a cursor takes the line that its stream has next. -/
theorem takeLine_unpeeked (s : τ) (atLineEnd : Bool) :
    takeLine (⟨s, none, atLineEnd⟩ : Cursor τ) =
      ((takeLine s).1, (takeLine s).2.1, ⟨(takeLine s).2.2, none, true⟩) := by
  induction s using SymbolSource.takeLine.induct generalizing atLineEnd with
  | case1 s t rest hnext ih =>
      have hcursor : SymbolSource.next (⟨s, none, atLineEnd⟩ : Cursor τ) =
          (.token t, ⟨rest, none, false⟩) := by
        change Cursor.next _ = _
        simp [next, hnext, Symbol.endsLine]
      rw [takeLine_of_token hcursor, ih, takeLine_of_token hnext]
  | case2 s e rest hnext =>
      have hcursor : SymbolSource.next (⟨s, none, atLineEnd⟩ : Cursor τ) =
          (.lineEnd e, ⟨rest, none, true⟩) := by
        change Cursor.next _ = _
        simp [next, hnext, Symbol.endsLine]
      rw [takeLine_of_lineEnd hcursor, takeLine_of_lineEnd hnext]

theorem finishLine_of_atLineEnd {c : Cursor τ} (h : c.atLineEnd = true) : c.finishLine = c := by
  rw [finishLine, if_pos h]

/-- Skipping goes to where the line ends and no further. -/
theorem finishLine_eq {c : Cursor τ} (h : c.atLineEnd = false) :
    c.finishLine = (takeLine c).2.2 := by
  induction c using SymbolSource.takeLine.induct with
  | case1 c t rest hnext ih =>
      have hrest : c.next.2 = rest := congrArg Prod.snd hnext
      have hgoes : rest.atLineEnd = false := by
        rw [← hrest, atLineEnd_next, show c.next.1 = .token t from congrArg Prod.fst hnext]
        rfl
      rw [finishLine, h, if_neg nofun, hrest, ih hgoes, takeLine_of_token hnext]
  | case2 c e rest hnext =>
      have hrest : c.next.2 = rest := congrArg Prod.snd hnext
      have hended : rest.atLineEnd = true := by
        rw [← hrest, atLineEnd_next, show c.next.1 = .lineEnd e from congrArg Prod.fst hnext]
        rfl
      rw [finishLine, h, if_neg nofun, hrest, finishLine_of_atLineEnd hended,
        takeLine_of_lineEnd hnext]

end Cursor

/-! ## The rest of a line at once -/

namespace LineState

theorem foldl_step_refused (closed : Growable Stage) (e : CommandError) (tokens : List Token) :
    tokens.foldl step ⟨closed, .refused e⟩ = ⟨closed, .refused e⟩ := by
  induction tokens with
  | nil => rfl
  | cons t tokens ih =>
      rw [List.foldl_cons]
      cases t <;> exact ih

/-- What a reading comes to at the end of a line: a pipeline takes the room along, and
otherwise it is emptied. -/
def close (state : LineState) (e : LineEnd) : Command × CommandReader :=
  match state.finish e with
  | .run p => (.run p, .new)
  | command => (command, ⟨state.closed.clear⟩)

/-- What a reading comes to when the rest of its line is taken at once. -/
def takeRest (state : LineState) (s : τ) : Command × CommandReader × τ :=
  let (tokens, lineEnd, rest) := takeLine s
  let (command, reader) := (tokens.foldl step state).close lineEnd
  (command, reader, rest)

theorem takeRest_congr {s s' : τ} (h : SymbolSource.next s = SymbolSource.next s')
    (state : LineState) : state.takeRest s = state.takeRest s' := by
  rw [takeRest, takeRest, takeLine_congr h]

theorem takeRest_refused (closed : Growable Stage) (e : CommandError) (s : τ) :
    takeRest ⟨closed, .refused e⟩ s = (.refused e, ⟨closed.clear⟩, (takeLine s).2.2) := by
  rw [takeRest]
  simp only [foldl_step_refused]
  rfl

end LineState

namespace CommandReader

open LineState (step stepPipeline finish close takeRest takeRest_congr takeRest_refused)

/-- What a cursor reads, with the stream that it is left on. -/
def onStream (reading : Command × CommandReader × Cursor τ) : Command × CommandReader × τ :=
  (reading.1, reading.2.1, reading.2.2.stream)

section Conclude

variable {c rest : Cursor τ} {t : Token} {lineEnd : LineEnd} {state : LineState}

theorem onStream_of_token (h : c.next = (.token t, rest)) :
    onStream (state.takeRest c) = onStream ((state.step t).takeRest rest) := by
  have hline : takeLine c = (t :: (takeLine rest).1, (takeLine rest).2) := takeLine_of_token h
  rw [takeRest, hline]
  rfl

theorem onStream_of_lineEnd (h : c.next = (.lineEnd lineEnd, rest)) :
    onStream (state.takeRest c) =
      ((state.close lineEnd).1, (state.close lineEnd).2, rest.stream) := by
  have hline : takeLine c = ([], lineEnd, rest) := takeLine_of_lineEnd h
  rw [takeRest, hline]
  rfl

/-- An error at a token skips what comes behind it, and an error at the end of a line skips
nothing: either way it comes to the error of the whole line. -/
theorem conclude_refused {x : Symbol} {closed : Growable Stage} {e : CommandError}
    (h : c.next = (x, rest)) (htoken : ∀ t, x = .token t → state.step t = ⟨closed, .refused e⟩)
    (hend : ∀ lineEnd, x = .lineEnd lineEnd →
      state.close lineEnd = (.refused e, ⟨closed.clear⟩)) :
    conclude (.refused e) closed rest = onStream (state.takeRest c) := by
  have hsymbol : rest.atLineEnd = x.endsLine := by
    have hnext := c.atLineEnd_next
    rwa [h] at hnext
  cases x with
  | token t =>
      rw [onStream_of_token h, htoken t rfl, takeRest_refused, conclude,
        Cursor.finishLine_eq hsymbol]
      rfl
  | lineEnd lineEnd =>
      rw [onStream_of_lineEnd h, hend lineEnd rfl, conclude,
        Cursor.finishLine_of_atLineEnd hsymbol]

end Conclude

/-- A cursor reads a pipeline as the phases of its line do. -/
theorem conclude_readPipeline (closed : Growable Stage) (d : Draft) (c : Cursor τ) :
    conclude (readPipeline closed d c).1 (readPipeline closed d c).2.1
        (readPipeline closed d c).2.2 =
      onStream (takeRest ⟨closed, .pipeline d⟩ c) := by
  fun_induction readPipeline closed d c with
  | case1 closed d c w rest hnext hawaits ih =>
      rw [ih, onStream_of_token hnext]
      simp [step, stepPipeline, hawaits]
  | case2 closed d c w rest hnext hawaits ih =>
      rw [ih, onStream_of_token hnext]
      simp [step, stepPipeline, hawaits]
  | case3 closed d c rest hnext hsealed =>
      refine conclude_refused hnext ?_ nofun
      rintro t ⟨⟩
      simp [step, stepPipeline, hsealed]
  | case4 closed d c rest hnext hsealed path behind hpath ih =>
      rw [ih, onStream_of_token hnext]
      simp [step, stepPipeline, hsealed, onStream_of_token hpath]
  | case5 closed d c rest hnext hsealed x behind hnopath hpath =>
      have hdue : step ⟨closed, .pipeline d⟩ .writeTo = ⟨closed, .outputFile d⟩ := by
        simp [step, stepPipeline, hsealed]
      rw [onStream_of_token hnext, hdue]
      refine conclude_refused hpath ?_ ?_
      · rintro t rfl
        cases t with
        | word path => exact (hnopath path rfl).elim
        | _ => rfl
      · rintro lineEnd -
        rfl
  | case6 closed d c rest hnext hreads path behind hpath ih =>
      rw [ih, onStream_of_token hnext]
      simp [step, stepPipeline, hreads, onStream_of_token hpath]
  | case7 closed d c rest hnext hreads x behind hnopath hpath =>
      have hdue : step ⟨closed, .pipeline d⟩ .readFrom = ⟨closed, .inputFile d⟩ := by
        simp [step, stepPipeline, hreads]
      rw [onStream_of_token hnext, hdue]
      refine conclude_refused hpath ?_ ?_
      · rintro t rfl
        cases t with
        | word path => exact (hnopath path rfl).elim
        | _ => rfl
      · rintro lineEnd -
        rfl
  | case8 closed d c rest hnext hreads =>
      refine conclude_refused hnext ?_ nofun
      rintro t ⟨⟩
      simp [step, stepPipeline, hreads]
  | case9 closed d c rest hnext hsealed =>
      refine conclude_refused hnext ?_ nofun
      rintro t ⟨⟩
      simp [step, stepPipeline, hsealed]
  | case10 closed d c rest hnext hsealed ih =>
      rw [ih, onStream_of_token hnext]
      simp [step, stepPipeline, hsealed]
  | case11 closed d c rest hnext hawaits =>
      refine conclude_refused hnext nofun ?_
      rintro lineEnd ⟨⟩
      simp [close, finish, hawaits]
  | case12 closed d c rest hnext hawaits =>
      rw [onStream_of_lineEnd hnext]
      simp [conclude, close, finish, hawaits, new]
  | case13 closed d c rest hnext =>
      refine conclude_refused hnext nofun ?_
      rintro lineEnd ⟨⟩
      rfl

theorem conclude_readDirectory (r : CommandReader) (c : Cursor τ) :
    conclude (readDirectory c).1 r.buffer.clear (readDirectory c).2 =
      onStream (takeRest ⟨r.buffer.clear, .cd⟩ c) := by
  fun_cases readDirectory c with
  | case1 directory rest hnext behind hbehind =>
      rw [onStream_of_token hnext, onStream_of_lineEnd hbehind]
      rfl
  | case2 directory rest hnext x behind hnoend hbehind =>
      rw [onStream_of_token hnext]
      refine conclude_refused hbehind ?_ ?_
      · rintro t -
        rfl
      · rintro lineEnd rfl
        cases lineEnd with
        | newline => exact (hnoend rfl).elim
        | endOfInput => rfl
  | case3 x rest hnoword hnext =>
      refine conclude_refused hnext ?_ ?_
      · rintro t rfl
        cases t with
        | word directory => exact (hnoword directory rfl).elim
        | _ => rfl
      · rintro lineEnd -
        rfl

/-- If the newline does not follow, an `exit` is a program like any other. -/
theorem takeRest_exit {c rest : Cursor τ} {x : Symbol} (h : c.next = (x, rest))
    (hx : x ≠ .lineEnd .newline) (closed : Growable Stage) :
    onStream (takeRest ⟨closed, .pipeline (.ofProgram "exit")⟩ c) =
      onStream (takeRest ⟨closed, .exit⟩ c) := by
  cases x with
  | token t =>
      rw [onStream_of_token h, onStream_of_token h]
      rfl
  | lineEnd lineEnd =>
      rw [onStream_of_lineEnd h, onStream_of_lineEnd h]
      cases lineEnd with
      | newline => exact (hx rfl).elim
      | endOfInput => rfl

/-- A reading comes to what the line that the source has next comes to as a whole. -/
theorem read_eq_takeRest (r : CommandReader) (s : τ) :
    r.read s = (LineState.start r.buffer.clear).takeRest s := by
  have hline : onStream (takeRest (.start r.buffer.clear) (Cursor.ofStream s)) =
      takeRest (.start r.buffer.clear) s := by
    rw [Cursor.ofStream, onStream, takeRest, Cursor.takeLine_unpeeked]
    rfl
  rw [← hline, read]
  dsimp only
  generalize Cursor.ofStream s = c
  fun_cases readOpening c with
  | case1 rest hnext =>
      rw [onStream_of_lineEnd hnext]
      rfl
  | case2 rest hnext =>
      rw [onStream_of_lineEnd hnext]
      rfl
  | case3 rest peeked hpeek hnext =>
      -- The newline that has been looked at is taken, so the line is at its end.
      obtain ⟨hend, -⟩ := Cursor.next_of_peek hpeek
      rw [onStream_of_token hnext, onStream_of_lineEnd hend]
      rfl
  | case4 rest x peeked hx hpeek hnext =>
      obtain ⟨hfollows, hpeeked⟩ := Cursor.next_of_peek hpeek
      dsimp only
      rw [conclude_readPipeline, takeRest_congr hpeeked, takeRest_exit hfollows hx,
        onStream_of_token hnext]
      rfl
  | case5 rest command behind hdirectory hnext =>
      have hcd := conclude_readDirectory r rest
      rw [hdirectory] at hcd
      rw [onStream_of_token hnext]
      exact hcd
  | case6 name rest hnext hexit hcd =>
      dsimp only
      rw [conclude_readPipeline, onStream_of_token hnext]
      simp [LineState.start, step, hexit, hcd]
  | case7 x rest hnoend hnoinput hnoword hnext =>
      refine conclude_refused hnext ?_ ?_
      · rintro t rfl
        cases t with
        | word name => exact (hnoword name rfl).elim
        | _ => rfl
      · rintro lineEnd rfl
        cases lineEnd with
        | newline => exact (hnoend rfl).elim
        | endOfInput => exact (hnoinput rfl).elim

/-! ## The outcome, the reader and the source after a reading -/

theorem read_command (r : CommandReader) (s : τ) :
    (r.read s).1 =
      (LineState.ofTokens r.buffer.clear (takeLine s).1).finish (takeLine s).2.1 := by
  rw [read_eq_takeRest, takeRest]
  dsimp only
  rw [LineState.close, LineState.ofTokens]
  split <;> simp_all

theorem read_rest (r : CommandReader) (s : τ) : (r.read s).2.2 = (takeLine s).2.2 := by
  rw [read_eq_takeRest]
  rfl

theorem read_of_takeLine {s rest : τ} {tokens : List Token} {lineEnd : LineEnd}
    (h : takeLine s = (tokens, lineEnd, rest)) (r : CommandReader) :
    ∃ r', r.read s =
      ((LineState.ofTokens r.buffer.clear tokens).finish lineEnd, r', rest) := by
  refine ⟨(r.read s).2.1, Prod.ext ?_ (Prod.ext rfl ?_)⟩
  · rw [read_command, h]
  · rw [read_rest, h]

theorem read_ofLine (r : CommandReader) (t : List Token) (rest : List Symbol) :
    (r.read (Symbol.ofLine t ++ rest)).1 =
      (LineState.ofTokens r.buffer.clear t).finish .newline := by
  rw [read_command, SymbolSource.takeLine_ofLine]

theorem read_reader (r : CommandReader) (s : τ) :
    (r.read s).2.1 =
      ((LineState.ofTokens r.buffer.clear (takeLine s).1).close (takeLine s).2.1).2 := by
  rw [read_eq_takeRest]
  rfl

end CommandReader

end PipeShell

import Mathlib
import PipeShell.Proofs.TokenByToken
import PipeShell.Session

/-!
# One line for each command

Reading a command from a script asks for one line of it, and hands out all that this line
has given.  So between two commands no line is under way, the error that stands for the
end of the input inside a line cannot arise, and behind the end of the script or its
failure there is nothing but leaving.
-/

namespace PipeShell

namespace LineState

theorem phase_stepPipeline_ne_ended (closed : Growable Stage) (d : Draft) (t : Token) :
    (stepPipeline closed d t).phase ≠ .refused .unexpectedEndOfInput := by
  cases t <;> simp only [stepPipeline] <;> split <;> simp

theorem phase_step_ne_ended {s : LineState} (h : s.phase ≠ .refused .unexpectedEndOfInput)
    (t : Token) : (s.step t).phase ≠ .refused .unexpectedEndOfInput := by
  obtain ⟨closed, phase⟩ := s
  cases phase with
  | start =>
      cases t with
      | word w =>
          simp only [step]
          split
          · simp
          · split <;> simp
      | _ => simp [step]
  | exit => exact phase_stepPipeline_ne_ended closed _ t
  | pipeline d => exact phase_stepPipeline_ne_ended closed d t
  | refused e => exact h
  | _ => cases t <;> simp [step]

theorem phase_ofTokens_ne_ended (closed : Growable Stage) (tokens : List Token) :
    (ofTokens closed tokens).phase ≠ .refused .unexpectedEndOfInput := by
  unfold ofTokens
  have hstart : (start closed).phase ≠ .refused .unexpectedEndOfInput := by
    simp [start]
  generalize start closed = s at hstart
  induction tokens generalizing s with
  | nil => exact hstart
  | cons t tokens ih => exact ih _ (phase_step_ne_ended hstart t)

theorem finish_newline_ne_ended {s : LineState}
    (h : s.phase ≠ .refused .unexpectedEndOfInput) :
    s.finish .newline ≠ .refused .unexpectedEndOfInput := by
  obtain ⟨closed, phase⟩ := s
  cases phase with
  | pipeline d =>
      simp only [finish]
      split <;> simp
  | refused e =>
      intro he
      apply h
      rw [Command.refused.inj he]
  | _ => simp [finish]

end LineState

theorem Command.settle_ne_ended {c : Command} (h : c ≠ .refused .unexpectedEndOfInput)
    (w : World) : (c.settle w).1 ≠ .error .unexpectedEndOfInput := by
  cases c with
  | refused e =>
      intro he
      apply h
      rw [Outcome.error.inj he]
  | changeDirectory directory =>
      simp only [settle]
      split <;> simp
  | _ => simp [settle]

/-! ## One command -/

namespace CommandReader

variable {σ : Type u} [LineSource σ]

/-- All that reading a command can do to a stream of which no line is under way. -/
inductive Takes (r : CommandReader) (s : TokenStream σ) : Command → TokenStream σ → Prop where
  | line {source : σ} {bytes : Bytes} {tokens : List Token} (hgoes : s.finished = false)
      (hread : LineSource.readLine s.source = (.line bytes, source))
      (htokens : Token.ofBytes bytes = .ok tokens) :
      Takes r s ((LineState.ofTokens r.buffer.clear tokens).finish .newline) { s with source }
  | rejected {source : σ} {bytes : Bytes} {e : LineError} (hgoes : s.finished = false)
      (hread : LineSource.readLine s.source = (.line bytes, source))
      (htokens : Token.ofBytes bytes = .error e) :
      Takes r s .nothing { s with source, rejected := s.rejected.push e }
  | endOfInput {source : σ} (hgoes : s.finished = false)
      (hread : LineSource.readLine s.source = (.endOfInput, source)) :
      Takes r s .leave { s with source, finished := true }
  | failure {source : σ} {cause : Failure} (hgoes : s.finished = false)
      (hread : LineSource.readLine s.source = (.failure cause, source)) :
      Takes r s .leave { s with source, finished := true, failure := some cause }
  | ended (hended : s.finished = true) : Takes r s .leave s

theorem takes_of_takeLine {r : CommandReader} {s rest : TokenStream σ} {tokens : List Token}
    {lineEnd : LineEnd} (h : SymbolSource.takeLine s = (tokens, lineEnd, rest))
    (htakes : Takes r s ((LineState.ofTokens r.buffer.clear tokens).finish lineEnd) rest) :
    Takes r s (r.read s).1 (r.read s).2.2 := by
  rw [read_command, read_rest, h]
  exact htakes

theorem takes_read {s : TokenStream σ} (hline : s.line = none) (r : CommandReader) :
    Takes r s (r.read s).1 (r.read s).2.2 := by
  cases hfinished : s.finished with
  | true =>
      exact takes_of_takeLine (TokenStream.takeLine_finished hline hfinished) (.ended hfinished)
  | false =>
      rcases hread : LineSource.readLine s.source with ⟨reading, source⟩
      cases reading with
      | endOfInput =>
          exact takes_of_takeLine (TokenStream.takeLine_endOfInput hline hfinished hread)
            (.endOfInput hfinished hread)
      | failure cause =>
          exact takes_of_takeLine (TokenStream.takeLine_failure hline hfinished hread)
            (.failure hfinished hread)
      | line bytes =>
          cases htokens : Token.ofBytes bytes with
          | error e =>
              exact takes_of_takeLine
                (TokenStream.takeLine_rejected hline hfinished hread htokens)
                (.rejected hfinished hread htokens)
          | ok tokens =>
              exact takes_of_takeLine (TokenStream.takeLine_line hline hfinished hread htokens)
                (.line hfinished hread htokens)

namespace Takes

variable {r : CommandReader} {s s' : TokenStream σ} {c : Command}

theorem line_eq_none (h : Takes r s c s') (hline : s.line = none) : s'.line = none := by
  cases h <;> exact hline

theorem ne_ended (h : Takes r s c s') : c ≠ .refused .unexpectedEndOfInput := by
  cases h with
  | line =>
      apply LineState.finish_newline_ne_ended
      exact LineState.phase_ofTokens_ne_ended _ _
  | _ => intro hc; cases hc

/-- At most one line is turned down, and then nothing is asked for. -/
theorem rejected_cases (h : Takes r s c s') :
    s'.rejected = s.rejected ∨ ∃ e, s'.rejected = s.rejected.push e ∧ c = .nothing := by
  cases h with
  | rejected => exact .inr ⟨_, rfl, rfl⟩
  | _ => exact .inl rfl

end Takes

end CommandReader

/-! ## Any number of commands -/

/-- A reading that gives a line. -/
def LineReading.IsLine (reading : LineReading) : Prop :=
  ∃ bytes, reading = .line bytes

/-- A script together with all that has been read from it. -/
structure Watched (σ : Type u) where
  script : σ
  given : List LineReading

instance {σ : Type u} [ScriptSource σ] : ScriptSource (Watched σ) where
  readLine s w :=
    let (reading, script, w) := ScriptSource.readLine s.script w
    (reading, ⟨script, s.given ++ [reading]⟩, w)

theorem Watched.given_of_readLine {σ : Type u} [ScriptSource σ] {s s' : Watched σ}
    {w w' : World} {reading : LineReading}
    (h : ScriptSource.readLine s w = (reading, s', w')) : s'.given = s.given ++ [reading] := by
  obtain ⟨rfl, hrest⟩ := Prod.mk.inj h
  obtain ⟨rfl, -⟩ := Prod.mk.inj hrest
  rfl

namespace TokenStream

variable {σ : Type u} [ScriptSource σ]

/-- The readings that the source of a stream has given. -/
def given (s : TokenStream (Watched σ × World)) : List LineReading :=
  s.source.1.given

/-- The streams that commands are read from: a new one over a script, and what becomes of
it when commands are read by any readers, what has been recorded is taken out, and the
world changes in between. -/
inductive Visited : TokenStream (Watched σ × World) → Prop where
  | begin (script : σ) (w : World) : Visited (.ofSource (⟨script, []⟩, w))
  | read {s : TokenStream (Watched σ × World)} (h : Visited s) (r : CommandReader) :
      Visited (r.read s).2.2
  | takeRejected {s : TokenStream (Watched σ × World)} (h : Visited s) :
      Visited s.takeRejected.2
  | takeFailure {s : TokenStream (Watched σ × World)} (h : Visited s) : Visited s.takeFailure.2
  | world {s : TokenStream (Watched σ × World)} (h : Visited s) (w : World) :
      Visited { s with source := (s.source.1, w) }

/-- No line is under way, and the stream knows whether its source has ended. -/
structure BetweenLines (s : TokenStream (Watched σ × World)) : Prop where
  line : s.line = none
  finished : s.finished = false ↔ ∀ reading ∈ s.given, reading.IsLine

theorem given_of_readLine {source source' : Watched σ × World} {reading : LineReading}
    (h : LineSource.readLine source = (reading, source')) :
    source'.1.given = source.1.given ++ [reading] :=
  Watched.given_of_readLine h

variable {s s' : TokenStream (Watched σ × World)} {r : CommandReader} {c : Command}

/-- A command takes one reading if the source has not ended, and none if it has. -/
theorem given_cases (h : r.Takes s c s') :
    (s.finished = false ∧ ∃ reading, s'.given = s.given ++ [reading] ∧
        (s'.finished = false ↔ reading.IsLine) ∧ (¬ reading.IsLine → c = .leave)) ∨
      (s.finished = true ∧ s' = s ∧ c = .leave) := by
  cases h with
  | line hgoes hread htokens =>
      refine .inl ⟨hgoes, _, given_of_readLine hread, ?_, ?_⟩
      · exact ⟨fun _ ↦ ⟨_, rfl⟩, fun _ ↦ hgoes⟩
      · exact fun hno ↦ absurd ⟨_, rfl⟩ hno
  | rejected hgoes hread htokens =>
      refine .inl ⟨hgoes, _, given_of_readLine hread, ?_, ?_⟩
      · exact ⟨fun _ ↦ ⟨_, rfl⟩, fun _ ↦ hgoes⟩
      · exact fun hno ↦ absurd ⟨_, rfl⟩ hno
  | endOfInput hgoes hread =>
      refine .inl ⟨hgoes, _, given_of_readLine hread, ?_, fun _ ↦ rfl⟩
      simp [LineReading.IsLine]
  | failure hgoes hread =>
      refine .inl ⟨hgoes, _, given_of_readLine hread, ?_, fun _ ↦ rfl⟩
      simp [LineReading.IsLine]
  | ended hended => exact .inr ⟨hended, rfl, rfl⟩

theorem BetweenLines.takes (hs : BetweenLines s) (h : r.Takes s c s') : BetweenLines s' := by
  refine ⟨h.line_eq_none hs.line, ?_⟩
  rcases given_cases h with ⟨hgoes, reading, hgiven, hfinished, -⟩ | ⟨-, rfl, -⟩
  · have hlines := hs.finished.1 hgoes
    rw [hfinished, hgiven, List.forall_mem_append, List.forall_mem_singleton]
    exact ⟨fun hline ↦ ⟨hlines, hline⟩, And.right⟩
  · exact hs.finished

theorem Visited.betweenLines (h : Visited s) : BetweenLines s := by
  induction h with
  | begin script w => exact ⟨rfl, by simp [ofSource, given]⟩
  | read h r ih => exact ih.takes (CommandReader.takes_read ih.line r)
  | takeRejected h ih => exact ⟨ih.line, ih.finished⟩
  | takeFailure h ih => exact ⟨ih.line, ih.finished⟩
  | world h w ih => exact ⟨ih.line, ih.finished⟩

/-- What reading a command from a stream over a script does. -/
structure TakesOneLine (r : CommandReader) (s : TokenStream (Watched σ × World)) : Prop where
  /-- As long as the script has given lines only, it is read once more. -/
  goes : (∀ reading ∈ s.given, reading.IsLine) →
    ∃ reading, (r.read s).2.2.given = s.given ++ [reading]
  /-- Behind its end or its failure it is not read. -/
  ends : (∃ reading ∈ s.given, ¬ reading.IsLine) → (r.read s).2.2.source = s.source
  leaves : (∃ reading ∈ (r.read s).2.2.given, ¬ reading.IsLine) → (r.read s).1 = .leave
  recorded : (r.read s).2.2.rejected = s.rejected ∨
    ∃ e, (r.read s).2.2.rejected = s.rejected.push e ∧ (r.read s).1 = .nothing
  settled : ∀ w, ((r.read s).1.settle w).1 ≠ .error .unexpectedEndOfInput

/-- Whatever has been read before, a command takes one line from a script that has not ended
and nothing from one that has, and it never meets the end of the input inside a line. -/
theorem visited_takes_one_line (h : Visited s) (r : CommandReader) : TakesOneLine r s := by
  have hbetween := h.betweenLines
  have htakes := CommandReader.takes_read hbetween.line r
  have hafter := hbetween.takes htakes
  refine ⟨?_, ?_, ?_, htakes.rejected_cases, Command.settle_ne_ended htakes.ne_ended⟩
  · intro hlines
    rcases given_cases htakes with ⟨-, reading, hgiven, -⟩ | ⟨hended, -⟩
    · exact ⟨reading, hgiven⟩
    · rw [hbetween.finished.2 hlines] at hended
      cases hended
  · rintro ⟨reading, hmem, hno⟩
    rcases given_cases htakes with ⟨hgoes, -⟩ | ⟨-, hsame, -⟩
    · exact absurd (hbetween.finished.1 hgoes reading hmem) hno
    · rw [hsame]
  · rintro ⟨reading, hmem, hno⟩
    rcases given_cases htakes with ⟨hgoes, last, hgiven, -, hleaves⟩ | ⟨-, -, hleave⟩
    · -- The reading that is no line can only be the one just taken.
      rw [hgiven, List.mem_append, List.mem_singleton] at hmem
      rcases hmem with hbefore | rfl
      · exact absurd (hbetween.finished.1 hgoes reading hbefore) hno
      · exact hleaves hno
    · exact hleave

/-- A line with an open quote, then the end of the input, and then a line that nobody reads. -/
theorem visited_takes_one_line_behind_end :
    let script := Readings.ofList [.line (encode "a 'b"), .endOfInput, .line (encode "c")]
    let w : World := ⟨⟨⟨#[]⟩, #[], #[], #[], 0⟩, ⟨[]⟩, 0, [], #[], [], .none⟩
    let first := CommandReader.new.read (ofSource (Watched.mk script [], w))
    let second := CommandReader.new.read first.2.2
    let third := CommandReader.new.read second.2.2
    first.2.2.rejected = #[.unfinishedQuote] ∧ first.1 = .nothing ∧
      second.2.2.given = [.line (encode "a 'b"), .endOfInput] ∧ Visited second.2.2 ∧
      third.1 = .leave ∧ third.2.2.source = second.2.2.source := by
  intro script w first second third
  have htokens : Token.ofBytes (encode "a 'b") = .error .unfinishedQuote := by cbv
  have hfirst : first.2.2 = { ofSource (Watched.mk ⟨[.endOfInput, .line (encode "c")], 1⟩
      [.line (encode "a 'b")], w) with rejected := #[.unfinishedQuote] } := by
    change (CommandReader.new.read (ofSource (Watched.mk script [], w))).2.2 = _
    rw [CommandReader.read_rest, takeLine_rejected rfl rfl rfl htokens]
    rfl
  have hsecond : second.2.2.given = [.line (encode "a 'b"), .endOfInput] := by
    change (CommandReader.new.read first.2.2).2.2.given = _
    rw [CommandReader.read_rest, hfirst, takeLine_endOfInput rfl rfl rfl]
    rfl
  have hnothing : first.1 = .nothing := by
    obtain ⟨-, -, -, hrecorded, -⟩ := visited_takes_one_line (.begin script w) .new
    rcases hrecorded with hsame | ⟨e, -, hnothing⟩
    · have hempty : first.2.2.rejected = #[] := hsame
      rw [hfirst] at hempty
      cases hempty
    · exact hnothing
  have hvisited : Visited second.2.2 := .read (.read (.begin script w) .new) .new
  obtain ⟨-, hends, hleaves, -, -⟩ := visited_takes_one_line hvisited .new
  have hend : ∃ reading ∈ second.2.2.given, ¬ reading.IsLine := by
    refine ⟨.endOfInput, ?_, ?_⟩
    · simp [hsecond]
    · simp [LineReading.IsLine]
  have hsource : third.2.2.source = second.2.2.source := hends hend
  have hleave : third.1 = .leave := by
    apply hleaves
    change ∃ reading ∈ third.2.2.source.1.given, ¬ reading.IsLine
    rw [hsource]
    exact hend
  exact ⟨by rw [hfirst], hnothing, hsecond, hvisited, hleave, hsource⟩

end TokenStream

end PipeShell

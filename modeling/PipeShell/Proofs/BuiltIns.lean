import PipeShell.Proofs.TokenByToken

/-!
# The line that ends a session

`exit` is a command only when it stands alone on its line: a line that ends with its
newline asks to leave exactly when that word is its only token.
-/

namespace PipeShell

namespace LineState

theorem phase_stepPipeline_ne (closed : Growable Stage) (d : Draft) (t : Token) :
    (stepPipeline closed d t).phase ≠ .start ∧ (stepPipeline closed d t).phase ≠ .exit := by
  cases t <;> simp only [stepPipeline] <;> split <;> simp

theorem phase_step_ne_start (s : LineState) (t : Token) : (s.step t).phase ≠ .start := by
  obtain ⟨closed, phase⟩ := s
  cases phase with
  | exit => exact (phase_stepPipeline_ne closed _ t).1
  | pipeline d => exact (phase_stepPipeline_ne closed d t).1
  | start =>
      cases t with
      | word w =>
          simp only [step]
          split
          · simp
          · split <;> simp
      | _ => simp [step]
  | _ => cases t <;> simp [step]

theorem phase_step_eq_exit {s : LineState} {t : Token} (h : (s.step t).phase = .exit) :
    s.phase = .start ∧ t = .word "exit" := by
  obtain ⟨closed, phase⟩ := s
  cases phase with
  | exit => exact absurd h (phase_stepPipeline_ne closed _ t).2
  | pipeline d => exact absurd h (phase_stepPipeline_ne closed d t).2
  | start =>
      cases t with
      | word w =>
          simp only [step] at h
          split at h
          next hw => exact ⟨rfl, by rw [hw]⟩
          next => split at h <;> simp at h
      | _ => simp [step] at h
  | _ => cases t <;> simp [step] at h

/-- Only before its first token is a line at its start. -/
theorem ofTokens_phase_start {closed : Growable Stage} {tokens : List Token}
    (h : (ofTokens closed tokens).phase = .start) : tokens = [] := by
  obtain rfl | ⟨front, t, rfl⟩ := List.eq_nil_or_concat tokens
  · rfl
  · rw [ofTokens, List.concat_eq_append, List.foldl_append] at h
    exact absurd h (phase_step_ne_start _ t)

theorem ofTokens_phase_exit {closed : Growable Stage} {tokens : List Token}
    (h : (ofTokens closed tokens).phase = .exit) : tokens = [.word "exit"] := by
  obtain rfl | ⟨front, t, rfl⟩ := List.eq_nil_or_concat tokens
  · cases h
  · rw [ofTokens, List.concat_eq_append, List.foldl_append] at h
    obtain ⟨hstart, rfl⟩ := phase_step_eq_exit h
    rw [ofTokens_phase_start hstart]
    rfl

theorem finish_newline_eq_leave {s : LineState} (h : s.finish .newline = .leave) :
    s.phase = .exit := by
  obtain ⟨closed, phase⟩ := s
  cases phase with
  | exit => rfl
  | pipeline d =>
      simp only [finish] at h
      split at h <;> cases h
  | _ => cases h

end LineState

/-- A line asks to leave exactly when `exit` is all that it holds. -/
theorem CommandReader.read_ofLine_eq_leave_iff (r : CommandReader) (t : List Token)
    (rest : List Symbol) :
    (r.read (Symbol.ofLine t ++ rest)).1 = .leave ↔ t = [.word "exit"] := by
  rw [read_ofLine]
  constructor
  · intro h
    exact LineState.ofTokens_phase_exit (LineState.finish_newline_eq_leave h)
  · rintro rfl
    rfl

end PipeShell

import PipeShell.Execution
import PipeShell.Proofs.TokenByToken

/-!
# The room of a reader plays no part

`fitted` takes from an array, a line under way or a command the room that it does
not need.  Reading a token respects this, so a command depends on the line alone up
to its room; and running a pipeline does not look at the room of its stages.
-/

namespace PipeShell

/-- The pipeline with no room to spare. -/
def Pipeline.fitted (p : Pipeline) : Pipeline :=
  { p with stages := p.stages.copy }

/-- The command with no room to spare. -/
def Command.fitted : Command → Command
  | .run p => .run p.fitted
  | c => c

theorem Command.cases_of_fitted_eq {c c' : Command} (h : c.fitted = c'.fitted) :
    c = c' ∨ ∃ p p', c = .run p ∧ c' = .run p' ∧ p.fitted = p'.fitted := by
  cases c <;> cases c' <;> simp_all [Command.fitted]

/-- The state with no room to spare. -/
def LineState.fitted (s : LineState) : LineState :=
  ⟨s.closed.copy, s.phase⟩

namespace LineState

theorem fitted_stepPipeline (closed : Growable Stage) (d : Draft) (t : Token) :
    (stepPipeline closed.copy d t).fitted = (stepPipeline closed d t).fitted := by
  cases t <;> simp only [stepPipeline] <;> split <;> rfl

theorem fitted_step (s : LineState) (t : Token) : (s.fitted.step t).fitted = (s.step t).fitted := by
  obtain ⟨closed, phase⟩ := s
  cases phase with
  | start =>
      cases t with
      | word w =>
          simp only [fitted, step]
          split
          · rfl
          · split <;> rfl
      | _ => rfl
  | exit => exact fitted_stepPipeline closed _ t
  | pipeline d => exact fitted_stepPipeline closed d t
  | _ => cases t <;> rfl

theorem fitted_foldl_step (s : LineState) (tokens : List Token) :
    (tokens.foldl step s.fitted).fitted = (tokens.foldl step s).fitted := by
  induction tokens generalizing s with
  | nil => rfl
  | cons t tokens ih =>
      rw [List.foldl_cons, List.foldl_cons, ← ih (s.step t), ← fitted_step, ih]

theorem fitted_finish (s : LineState) (lineEnd : LineEnd) :
    (s.fitted.finish lineEnd).fitted = (s.finish lineEnd).fitted := by
  obtain ⟨closed, phase⟩ := s
  cases phase with
  | pipeline d =>
      cases lineEnd with
      | newline =>
          simp only [fitted, finish]
          split <;> rfl
      | endOfInput => rfl
  | _ => cases lineEnd <;> rfl

end LineState

/-- Up to its room the command of a line does not depend on the room it was gathered in. -/
theorem Command.fitted_ofTokens (g h : Growable Stage) (tokens : List Token)
    (lineEnd : LineEnd) :
    ((LineState.ofTokens g.clear tokens).finish lineEnd).fitted =
      ((LineState.ofTokens h.clear tokens).finish lineEnd).fitted := by
  have hstart : (LineState.start g.clear).fitted = (LineState.start h.clear).fitted := rfl
  rw [← LineState.fitted_finish, LineState.ofTokens, ← LineState.fitted_foldl_step, hstart,
    LineState.fitted_foldl_step, LineState.fitted_finish, LineState.ofTokens]

/-- Running a pipeline does not look at the room of its stages. -/
theorem Pipeline.execute_fitted (sched : Scheduler) (p : Pipeline) :
    p.fitted.execute sched = p.execute sched := rfl

end PipeShell

import PipeShell.Growable

/-!
# Pipelines

A pipeline is a row of programs with their arguments.  The first may read its
input from a file, and the last may write its output to one.
-/

namespace PipeShell

/-- A program and its arguments. -/
structure Stage where
  program : String
  arguments : Array String
  deriving DecidableEq, Repr

namespace Stage

/-- A program without arguments. -/
def ofProgram (program : String) : Stage :=
  ⟨program, #[]⟩

/-- Adds an argument. -/
def addArgument (s : Stage) (argument : String) : Stage :=
  ⟨s.program, s.arguments.push argument⟩

/-- What the program is given: its own name, then its arguments. -/
def args (s : Stage) : List String :=
  s.program :: s.arguments.toList

@[simp] theorem args_ofProgram (program : String) : (ofProgram program).args = [program] := rfl

@[simp] theorem args_addArgument (s : Stage) (argument : String) :
    (s.addArgument argument).args = s.args ++ [argument] := by
  simp [args, addArgument]

end Stage

/-- Stages that run side by side, and the files at both ends. -/
structure Pipeline where
  stages : Growable Stage
  input : Option String
  output : Option String

end PipeShell

/-!
# Failures with their causes

A failure is told by a chain of texts: what could not be done, then why, then
the reason for that.
-/

namespace PipeShell

/-- What failed, and its causes from the nearest to the first. -/
structure Failure where
  summary : String
  causes : List String
  deriving DecidableEq, Repr

namespace Failure

/-- A failure without a further cause. -/
def ofText (text : String) : Failure :=
  ⟨text, []⟩

/-- Says what could not be done because of this failure. -/
def within (f : Failure) (summary : String) : Failure :=
  ⟨summary, f.summary :: f.causes⟩

/-- The whole chain on one line. -/
def message (f : Failure) : String :=
  ": ".intercalate (f.summary :: f.causes)

/-- A number in a column of five. -/
def column (n : Nat) : String :=
  let digits := toString n
  "".pushn ' ' (5 - digits.length) ++ digits

/-- The chain as a report of several lines; causes are numbered when there is
more than one. -/
def report (f : Failure) : String :=
  match f.causes with
  | [] => f.summary
  | [cause] => s!"{f.summary}\n\nCaused by:\n    {cause}"
  | causes =>
      let lines := causes.zipIdx.map fun (cause, i) ↦ s!"\n{column i}: {cause}"
      s!"{f.summary}\n\nCaused by:" ++ String.join lines

end Failure

end PipeShell

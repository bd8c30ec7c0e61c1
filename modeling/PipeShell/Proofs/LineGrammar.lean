import PipeShell.Command.Draft

/-!
# The grammar of pipelines

A line that asks for a pipeline is a row of segments with one or more pipes
between any two.  A segment is a program and the items behind it; a segment
other than the first may have the file of a `>` in front of its program.  The
grammar is stated here without reading anything: `LineForm.tokens` writes a form
down, `LineForm.Legal` says which forms count, and `LineForm.args`, `LineForm.input`
and `LineForm.output` say what a form means.
-/

namespace PipeShell

/-- What may stand behind a program. -/
inductive Item where
  | argument (text : String)
  | input (path : String)
  | output (path : String)
  deriving DecidableEq, Repr

namespace Item

def tokens : Item → List Token
  | .argument text => [.word text]
  | .input path => [.readFrom, .word path]
  | .output path => [.writeTo, .word path]

def argument? : Item → Option String
  | .argument text => some text
  | _ => none

def input? : Item → Option String
  | .input path => some path
  | _ => none

def output? : Item → Option String
  | .output path => some path
  | _ => none

end Item

/-- A program and what belongs to it up to the next pipe. -/
structure Segment where
  /-- The file of a `>` in front of the program. -/
  early : Option String
  program : String
  items : List Item
  deriving DecidableEq, Repr

namespace Segment

/-- The tokens of a `>` in front of a program. -/
def earlyTokens : Option String → List Token
  | none => []
  | some path => [.writeTo, .word path]

def tokens (s : Segment) : List Token :=
  earlyTokens s.early ++ .word s.program :: s.items.flatMap Item.tokens

/-- The words that are no file names. -/
def args (s : Segment) : List String :=
  s.program :: s.items.filterMap Item.argument?

/-- The files of the `<` behind the program. -/
def inputs (s : Segment) : List String :=
  s.items.filterMap Item.input?

/-- The files of the `>` behind the program. -/
def outputs (s : Segment) : List String :=
  s.items.filterMap Item.output?

/-- The files of all `>`, in order. -/
def allOutputs (s : Segment) : List String :=
  s.early.toList ++ s.outputs

end Segment

/-- The segments behind the first one, each with the number of pipes that stand
in front of it beyond the one there must be. -/
abbrev PipedSegments := List (Nat × Segment)

namespace PipedSegments

/-- The tokens of segments with the pipes in front of them. -/
def tokens (rest : PipedSegments) : List Token :=
  rest.flatMap fun piped ↦ List.replicate (piped.1 + 1) .pipe ++ piped.2.tokens

def segments (rest : PipedSegments) : List Segment :=
  rest.map Prod.snd

@[simp] theorem tokens_nil : tokens [] = [] := rfl

theorem tokens_cons (extra : Nat) (s : Segment) (rest : PipedSegments) :
    tokens ((extra, s) :: rest) =
      (List.replicate (extra + 1) .pipe ++ s.tokens) ++ tokens rest := rfl

@[simp] theorem segments_nil : segments [] = [] := rfl

@[simp] theorem segments_cons (extra : Nat) (s : Segment) (rest : PipedSegments) :
    segments ((extra, s) :: rest) = s :: segments rest := rfl

end PipedSegments

/-- A row of segments with pipes between them. -/
structure LineForm where
  first : Segment
  rest : PipedSegments
  deriving DecidableEq, Repr

namespace LineForm

def segments (f : LineForm) : List Segment :=
  f.first :: f.rest.segments

def tokens (f : LineForm) : List Token :=
  f.first.tokens ++ f.rest.tokens

/-- The forms of lines that are read as pipelines. -/
structure Legal (f : LineForm) : Prop where
  first_early : f.first.early = none
  first_inputs : f.first.inputs.length ≤ 1
  rest_inputs : ∀ s ∈ f.rest.segments, s.inputs = []
  outputs : ∀ s ∈ f.segments, s.outputs.length ≤ 1
  /-- Only the last segment has a `>` behind its program. -/
  outputs_last : ∀ s ∈ f.segments.dropLast, s.outputs = []

/-- What the stages are given, first to last. -/
def args (f : LineForm) : List (List String) :=
  f.segments.map Segment.args

/-- The file of the `<`. -/
def input (f : LineForm) : Option String :=
  f.first.inputs.head?

/-- The file of the last `>`. -/
def output (f : LineForm) : Option String :=
  (f.segments.flatMap Segment.allOutputs).getLast?

theorem length_args (f : LineForm) : f.args.length = f.rest.length + 1 := by
  simp [args, segments, PipedSegments.segments]

theorem ne_nil_of_mem_args {f : LineForm} {a : List String} (h : a ∈ f.args) : a ≠ [] := by
  obtain ⟨s, -, rfl⟩ := List.mem_map.1 h
  exact List.cons_ne_nil _ _

end LineForm

/-! ## Runs of pipes -/

/-- The number of maximal runs of pipes that stand side by side. -/
def pipeRuns : List Token → Nat
  | [] => 0
  | .pipe :: .pipe :: rest => pipeRuns (.pipe :: rest)
  | .pipe :: rest => pipeRuns rest + 1
  | _ :: rest => pipeRuns rest

@[simp] theorem pipeRuns_word (w : String) (rest : List Token) :
    pipeRuns (.word w :: rest) = pipeRuns rest := by
  simp [pipeRuns]

@[simp] theorem pipeRuns_writeTo (rest : List Token) :
    pipeRuns (.writeTo :: rest) = pipeRuns rest := by
  simp [pipeRuns]

@[simp] theorem pipeRuns_readFrom (rest : List Token) :
    pipeRuns (.readFrom :: rest) = pipeRuns rest := by
  simp [pipeRuns]

theorem pipeRuns_pipe {rest : List Token} (h : rest.head? ≠ some .pipe) :
    pipeRuns (.pipe :: rest) = pipeRuns rest + 1 := by
  cases rest with
  | nil => rfl
  | cons t rest => cases t <;> simp_all [pipeRuns]

/-- A run of pipes counts once, however long it is. -/
theorem pipeRuns_replicate (extra : Nat) {rest : List Token} (h : rest.head? ≠ some .pipe) :
    pipeRuns (List.replicate (extra + 1) .pipe ++ rest) = pipeRuns rest + 1 := by
  induction extra with
  | zero => exact pipeRuns_pipe h
  | succ extra ih => exact ih

theorem pipeRuns_items (items : List Item) (rest : List Token) :
    pipeRuns (items.flatMap Item.tokens ++ rest) = pipeRuns rest := by
  induction items with
  | nil => rfl
  | cons item items ih => cases item <;> simpa [Item.tokens] using ih

theorem Segment.pipeRuns_tokens (s : Segment) (rest : List Token) :
    pipeRuns (s.tokens ++ rest) = pipeRuns rest := by
  cases h : s.early <;> simp [Segment.tokens, Segment.earlyTokens, h, pipeRuns_items]

theorem Segment.head?_tokens_ne_pipe (s : Segment) (rest : List Token) :
    (s.tokens ++ rest).head? ≠ some .pipe := by
  cases h : s.early <;> simp [Segment.tokens, Segment.earlyTokens, h]

theorem PipedSegments.pipeRuns_tokens (rest : PipedSegments) :
    pipeRuns rest.tokens = rest.length := by
  induction rest with
  | nil => rfl
  | cons piped rest ih =>
      rw [tokens_cons, List.append_assoc,
        pipeRuns_replicate _ (piped.2.head?_tokens_ne_pipe _), Segment.pipeRuns_tokens, ih,
        List.length_cons]

/-- A form has one segment more than its tokens have runs of pipes. -/
theorem LineForm.length_args_eq_pipeRuns (f : LineForm) :
    f.args.length = pipeRuns f.tokens + 1 := by
  rw [LineForm.length_args, LineForm.tokens, Segment.pipeRuns_tokens,
    PipedSegments.pipeRuns_tokens]

end PipeShell

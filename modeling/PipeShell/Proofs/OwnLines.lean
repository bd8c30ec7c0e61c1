import PipeShell.Proofs.BuiltIns
import PipeShell.Proofs.LineBoundaries
import PipeShell.Proofs.LineFronts
import PipeShell.Proofs.PipelineLines
import PipeShell.Session

/-!
# The two words that are commands

`cd` and one word, alone on their line, change the directory; `exit` alone on its line ends
the session, as the end of the input does.  No other line does either.  Everywhere else the
two are words like any others: with other words in their places a line asks for the same,
with the other words in it.
-/

namespace PipeShell

/-! ## The line at the front of a queue -/

namespace SymbolSource

/-- Where no line ends, the line taken ends with the input. -/
theorem takeLine_tokens (t : List Token) :
    takeLine (t.map Symbol.token) = (t, .endOfInput, []) := by
  induction t with
  | nil =>
      have hnext : next ([] : List Symbol) = (.lineEnd .endOfInput, []) := rfl
      exact takeLine_of_lineEnd hnext
  | cons a t ih =>
      have hnext : next (Symbol.token a :: t.map Symbol.token) =
          (.token a, t.map Symbol.token) := rfl
      rw [List.map_cons, takeLine_of_token hnext, ih]

end SymbolSource

namespace Symbol

open SymbolSource (takeLine takeLine_tokens takeLine_queue takeLine_ofLine takeLine_gives)

theorem queue_cases (q : List Symbol) :
    (∃ t : List Token, q = t.map .token) ∨
      ∃ (t : List Token) (e : LineEnd) (rest : List Symbol),
        q = t.map .token ++ .lineEnd e :: rest := by
  rcases (takeLine_gives q).queue with hq | ⟨hq, -⟩
  · exact .inr ⟨_, _, _, hq⟩
  · exact .inl ⟨_, hq⟩

/-- A line stands at the front of a queue, its newline included, exactly when it is the line
taken from the queue. -/
theorem ofLine_isPrefix_iff {t : List Token} {q : List Symbol} :
    ofLine t <+: q ↔ (takeLine q).1 = t ∧ (takeLine q).2.1 = .newline := by
  constructor
  · rintro ⟨rest, rfl⟩
    rw [takeLine_ofLine]
    exact ⟨rfl, rfl⟩
  · rintro ⟨rfl, hend⟩
    obtain ⟨t, rfl⟩ | ⟨t, e, rest, rfl⟩ := queue_cases q
    · rw [takeLine_tokens] at hend
      cases hend
    · rw [takeLine_queue] at hend ⊢
      subst hend
      exact ⟨rest, by simp [ofLine]⟩

/-- Nothing is left of the input in front of the queue. -/
theorem nothing_left_iff {q : List Symbol} :
    (q = [] ∨ q.head? = some (.lineEnd .endOfInput)) ↔
      (takeLine q).1 = [] ∧ (takeLine q).2.1 = .endOfInput := by
  obtain ⟨t, rfl⟩ | ⟨t, e, rest, rfl⟩ := queue_cases q
  · rw [takeLine_tokens]
    cases t <;> simp
  · rw [takeLine_queue]
    cases t <;> simp

theorem head?_eq_word_iff {q : List Symbol} {w : String} :
    q.head? = some (.token (.word w)) ↔ (takeLine q).1.head? = some (.word w) := by
  obtain ⟨t, rfl⟩ | ⟨t, e, rest, rfl⟩ := queue_cases q
  · rw [takeLine_tokens]
    cases t <;> simp
  · rw [takeLine_queue]
    cases t <;> simp

end Symbol

/-! ## What the end of a line asks for -/

namespace LineState

variable {closed : Growable Stage} {t : List Token} {e : LineEnd}

theorem finish_eq_changeDirectory {s : LineState} {directory : String}
    (h : s.finish e = .changeDirectory directory) :
    s.phase = .cdTo directory ∧ e = .newline := by
  obtain ⟨closed, phase⟩ := s
  cases phase with
  | cdTo d =>
      cases e with
      | newline =>
          cases h
          exact ⟨rfl, rfl⟩
      | endOfInput => cases h
  | pipeline d =>
      cases e with
      | newline =>
          simp only [finish] at h
          split at h <;> cases h
      | endOfInput => cases h
  | _ => cases e <;> cases h

theorem finish_endOfInput_ne_run (s : LineState) (p : Pipeline) :
    s.finish .endOfInput ≠ .run p := by
  obtain ⟨closed, phase⟩ := s
  cases phase <;> nofun

theorem finish_endOfInput_eq_leave {s : LineState} (h : s.finish .endOfInput = .leave) :
    s.phase = .start := by
  obtain ⟨closed, phase⟩ := s
  cases phase with
  | start => rfl
  | _ => cases h

theorem changeDirectory_iff {directory : String} :
    (ofTokens closed t).finish e = .changeDirectory directory ↔
      t = [.word "cd", .word directory] ∧ e = .newline := by
  constructor
  · intro h
    obtain ⟨hphase, hend⟩ := finish_eq_changeDirectory h
    have hrecords := records_ofTokens closed t
    rw [hphase] at hrecords
    exact ⟨hrecords, hend⟩
  · rintro ⟨rfl, rfl⟩
    rfl

theorem leave_iff :
    (ofTokens closed t).finish e = .leave ↔
      (t = [] ∧ e = .endOfInput) ∨ (t = [.word "exit"] ∧ e = .newline) := by
  constructor
  · intro h
    cases e with
    | newline => exact .inr ⟨ofTokens_phase_exit (finish_newline_eq_leave h), rfl⟩
    | endOfInput => exact .inl ⟨ofTokens_phase_start (finish_endOfInput_eq_leave h), rfl⟩
  · rintro (⟨rfl, rfl⟩ | ⟨rfl, rfl⟩) <;> rfl

end LineState

namespace CommandReader

variable (r : CommandReader) (q : List Symbol)

theorem read_eq_changeDirectory_iff (directory : String) :
    (r.read q).1 = .changeDirectory directory ↔
      Symbol.ofLine [.word "cd", .word directory] <+: q := by
  rw [read_command, LineState.changeDirectory_iff, Symbol.ofLine_isPrefix_iff]

theorem read_eq_leave_iff :
    (r.read q).1 = .leave ↔
      (q = [] ∨ q.head? = some (.lineEnd .endOfInput)) ∨ Symbol.ofLine [.word "exit"] <+: q := by
  rw [read_command, LineState.leave_iff, Symbol.nothing_left_iff, Symbol.ofLine_isPrefix_iff]

/-- A line that is read as a pipeline ends with its newline. -/
theorem exists_ofLine_of_read_run {p : Pipeline} (h : (r.read q).1 = .run p) :
    ∃ t rest, q = Symbol.ofLine t ++ rest := by
  rw [read_command] at h
  cases hend : (SymbolSource.takeLine q).2.1 with
  | newline =>
      obtain ⟨rest, hq⟩ := Symbol.ofLine_isPrefix_iff.2 ⟨rfl, hend⟩
      exact ⟨_, rest, hq.symm⟩
  | endOfInput =>
      rw [hend] at h
      exact absurd h (LineState.finish_endOfInput_ne_run _ p)

/-- The first program of a pipeline is never `cd`. -/
theorem first_program_of_read_run {p : Pipeline} (h : (r.read q).1 = .run p) :
    ∃ first rest, p.stages.toList = first :: rest ∧ first.program ≠ "cd" := by
  obtain ⟨t, behind, rfl⟩ := r.exists_ofLine_of_read_run q h
  rw [read_ofLine_eq_atNewline] at h
  obtain ⟨-, f, htokens, hlegal, hcd⟩ := LineForm.exists_of_run h
  have hargs : p.stages.toList.map Stage.args = f.args :=
    (LineForm.eq_of_run h htokens hlegal).1
  obtain ⟨first, rest, hstages, hfirst, -⟩ := List.map_eq_cons_iff.1 hargs
  refine ⟨first, rest, hstages, ?_⟩
  rw [List.head_eq_of_cons_eq hfirst]
  exact hcd

end CommandReader

/-! ## Carrying a line out -/

section Settling

variable {σ : Type u}

/-- Carries out a command in states of any kind, entering directories by `enter`. -/
def Command.settleBy (enter : String → σ → Except FileError Unit × σ) (c : Command) (s : σ) :
    Outcome × σ :=
  match c with
  | .nothing => (.nothing, s)
  | .leave => (.leave, s)
  | .run pipeline => (.run pipeline, s)
  | .refused e => (.error e, s)
  | .changeDirectory directory =>
      match enter directory s with
      | (.ok (), s) => (.nothing, s)
      | (.error cause, s) => (.error (.changeDirectory directory cause), s)

/-- An attempt to enter a directory, which leaves the world as it was if it fails. -/
def World.enter (directory : String) (w : World) : Except FileError Unit × World :=
  match w.changeDirectory directory with
  | .ok w => (.ok (), w)
  | .error cause => (.error cause, w)

theorem Command.settleBy_enter (c : Command) (w : World) :
    c.settleBy World.enter w = c.settle w := by
  cases c with
  | changeDirectory directory =>
      simp only [settleBy, settle, World.enter]
      cases w.changeDirectory directory <;> rfl
  | _ => rfl

/-- Attempts that are written down. -/
def recorded (enter : String → σ → Except FileError Unit × σ) (directory : String)
    (s : σ × List String) : Except FileError Unit × (σ × List String) :=
  let (result, entered) := enter directory s.1
  (result, entered, s.2 ++ [directory])

/-- The directories that are attempted, in order, when a command is carried out. -/
def Command.attempts (c : Command) (w : World) : List String :=
  (c.settleBy (recorded World.enter) (w, [])).2.2

/-- Writing the attempts down changes nothing else. -/
theorem Command.settleBy_recorded (c : Command) (w : World) (l : List String) :
    c.settleBy (recorded World.enter) (w, l) =
      ((c.settle w).1, (c.settle w).2, l ++ c.attempts w) := by
  cases c with
  | changeDirectory directory =>
      simp only [attempts, settleBy, settle, recorded, World.enter]
      cases w.changeDirectory directory <;> simp
  | _ => simp [attempts, settleBy, settle]

end Settling

namespace Command

variable {c : Command} {w : World}

theorem attempts_changeDirectory (directory : String) (w : World) :
    (changeDirectory directory).attempts w = [directory] := by
  simp only [attempts, settleBy, recorded, World.enter]
  cases w.changeDirectory directory <;> rfl

/-- Only a change of the directory attempts one. -/
theorem inert_of_ne (h : ∀ directory, c ≠ .changeDirectory directory) (w : World) :
    c.attempts w = [] ∧ (c.settle w).2 = w := by
  cases c with
  | changeDirectory directory => exact absurd rfl (h directory)
  | _ => exact ⟨rfl, rfl⟩

theorem settle_eq_leave_iff : (c.settle w).1 = .leave ↔ c = .leave := by
  cases c with
  | changeDirectory directory =>
      simp only [settle]
      cases w.changeDirectory directory <;> simp
  | _ => simp [settle]

theorem run_of_settle {p : Pipeline} (h : (c.settle w).1 = .run p) : c = .run p := by
  cases c with
  | run p' =>
      cases h
      rfl
  | changeDirectory directory =>
      simp only [settle] at h
      cases hmove : w.changeDirectory directory <;> rw [hmove] at h <;> cases h
  | _ => cases h

end Command

/-! ## Other words in their places -/

namespace Growable

variable {α β : Type u} {g : α → β}

/-- The values of an array, each replaced, in the same room. -/
def map (g : α → β) (a : Growable α) : Growable β :=
  ⟨a.items.map g, a.capacity, by
    rw [Array.size_map]
    exact a.size_le⟩

theorem grown_map (g : α → β) (a : Growable α) : (a.map g).grown = a.grown := by
  have hsize : (a.map g).size = a.size := Array.size_map
  rw [grown, grown, hsize]
  rfl

@[simp] theorem map_push (a : Growable α) (x : α) :
    (a.push x).map g = (a.map g).push (g x) := by
  simp only [push, map, Array.map_push, mk.injEq, true_and]
  exact (grown_map g a).symm

@[simp] theorem map_clear (g : α → α) (a : Growable α) : a.clear.map g = a.clear := by
  simp [map, clear]

end Growable

section Renaming

variable (f : String → String)

def Token.rename : Token → Token
  | .word w => .word (f w)
  | .pipe => .pipe
  | .readFrom => .readFrom
  | .writeTo => .writeTo

def Symbol.rename : Symbol → Symbol
  | .token t => .token (t.rename f)
  | .lineEnd e => .lineEnd e

def Stage.rename (s : Stage) : Stage :=
  ⟨f s.program, s.arguments.map f⟩

def Pipeline.rename (p : Pipeline) : Pipeline :=
  ⟨p.stages.map (Stage.rename f), p.input.map f, p.output.map f⟩

/-- What is asked for, with other words in the places of its own. -/
def Command.rename : Command → Command
  | .nothing => .nothing
  | .leave => .leave
  | .changeDirectory directory => .changeDirectory (f directory)
  | .run p => .run (p.rename f)
  | .refused e => .refused e

def Draft.rename (d : Draft) : Draft :=
  { d with current := d.current.rename f, input := d.input.map f, output := d.output.map f }

def Phase.rename : Phase → Phase
  | .start => .start
  | .exit => .exit
  | .cd => .cd
  | .cdTo directory => .cdTo (f directory)
  | .pipeline d => .pipeline (d.rename f)
  | .outputFile d => .outputFile (d.rename f)
  | .inputFile d => .inputFile (d.rename f)
  | .refused e => .refused e

def LineState.rename (s : LineState) : LineState :=
  ⟨s.closed.map (Stage.rename f), s.phase.rename f⟩

end Renaming

variable {f : String → String}

@[simp] theorem Stage.rename_ofProgram (program : String) :
    (ofProgram program).rename f = ofProgram (f program) := by
  simp [rename, ofProgram]

@[simp] theorem Stage.rename_addArgument (s : Stage) (argument : String) :
    (s.addArgument argument).rename f = (s.rename f).addArgument (f argument) := by
  simp [rename, addArgument]

theorem Draft.rename_ofProgram (program : String) :
    (ofProgram program).rename f = ofProgram (f program) := by
  simp [rename, ofProgram]

namespace LineState

theorem stepPipeline_rename (closed : Growable Stage) (d : Draft) (t : Token) :
    stepPipeline (closed.map (Stage.rename f)) (d.rename f) (t.rename f) =
      (stepPipeline closed d t).rename f := by
  obtain ⟨current, input, output, awaitsProgram, sealed, mayRead⟩ := d
  cases t with
  | word w =>
      cases awaitsProgram <;>
        simp [stepPipeline, Token.rename, rename, Phase.rename, Draft.rename]
  | pipe => cases sealed <;> rfl
  | writeTo => cases sealed <;> rfl
  | readFrom => cases mayRead <;> rfl

/-- Behind the first word of a line no word is told from another. -/
theorem step_rename {s : LineState} (hstart : s.phase ≠ .start) (hexit : s.phase ≠ .exit)
    (t : Token) : (s.rename f).step (t.rename f) = (s.step t).rename f := by
  obtain ⟨closed, phase⟩ := s
  cases phase with
  | start => exact absurd rfl hstart
  | exit => exact absurd rfl hexit
  | pipeline d => exact stepPipeline_rename closed d t
  | _ => cases t <;> rfl

theorem foldl_step_rename {s : LineState} (hstart : s.phase ≠ .start) (hexit : s.phase ≠ .exit)
    (t : List Token) :
    (t.map (Token.rename f)).foldl step (s.rename f) = (t.foldl step s).rename f := by
  induction t generalizing s with
  | nil => rfl
  | cons a t ih =>
      have hstart' : (s.step a).phase ≠ .start := phase_step_ne_start s a
      have hexit' : (s.step a).phase ≠ .exit := fun h ↦ hstart (phase_step_eq_exit h).1
      rw [List.map_cons, List.foldl_cons, List.foldl_cons, step_rename hstart hexit,
        ih hstart' hexit']

theorem finish_rename (s : LineState) (e : LineEnd) :
    (s.rename f).finish e = (s.finish e).rename f := by
  obtain ⟨closed, phase⟩ := s
  cases phase with
  | pipeline d =>
      obtain ⟨current, input, output, awaitsProgram, sealed, mayRead⟩ := d
      cases e with
      | newline =>
          cases awaitsProgram <;>
            simp [rename, Phase.rename, Draft.rename, finish, Command.rename, Pipeline.rename]
      | endOfInput => rfl
  | _ => cases e <;> rfl

theorem finish_foldl_rename {s : LineState} (hstart : s.phase ≠ .start)
    (hexit : s.phase ≠ .exit) (t : List Token) (e : LineEnd) :
    ((t.map (Token.rename f)).foldl step (s.rename f)).finish e =
      ((t.foldl step s).finish e).rename f := by
  rw [foldl_step_rename hstart hexit, finish_rename]

variable {closed : Growable Stage}

/-- A first word that is no command begins a pipeline. -/
theorem finish_ofTokens_program {w : String} {u : List Token} {e : LineEnd} (hcd : w ≠ "cd")
    (hexit : ¬ (.word w :: u = [.word "exit"] ∧ e = .newline)) :
    (ofTokens closed (.word w :: u)).finish e =
      (u.foldl step ⟨closed, .pipeline (.ofProgram w)⟩).finish e := by
  by_cases hw : w = "exit"
  · subst hw
    cases u with
    | nil =>
        cases e with
        | newline => exact absurd ⟨rfl, rfl⟩ hexit
        | endOfInput => rfl
    | cons a u => rfl
  · simp [ofTokens, start, step, hw, hcd]

/-- With other words in it a line asks for the same, with the other words in it, unless `cd`
in front of the line or `exit` alone on it is among the words on one side only. -/
theorem finish_ofTokens_rename {t : List Token} {e : LineEnd}
    (hcd : t.head? = some (.word "cd") ↔ (t.map (Token.rename f)).head? = some (.word "cd"))
    (hexit : t = [.word "exit"] ∧ e = .newline ↔
      t.map (Token.rename f) = [.word "exit"] ∧ e = .newline) :
    (ofTokens (closed.map (Stage.rename f)) (t.map (Token.rename f))).finish e =
      ((ofTokens closed t).finish e).rename f := by
  match t with
  | [] => cases e <;> rfl
  | .pipe :: u | .readFrom :: u | .writeTo :: u =>
      exact finish_foldl_rename (s := ⟨closed, .refused .noInitialProgram⟩) (by simp) (by simp) u e
  | .word w :: u =>
      by_cases hw : w = "cd"
      · subst hw
        have hkept : f "cd" = "cd" := by simpa [Token.rename] using hcd
        rw [List.map_cons, Token.rename, hkept]
        exact finish_foldl_rename (s := ⟨closed, .cd⟩) nofun nofun u e
      · have hfw : f w ≠ "cd" := by simpa [Token.rename, hw] using hcd
        by_cases halone : .word w :: u = [.word "exit"] ∧ e = .newline
        · rw [(hexit.1 halone).1, halone.1, halone.2]
          rfl
        · have halone' := halone ∘ hexit.2
          rw [List.map_cons, Token.rename] at halone' ⊢
          rw [finish_ofTokens_program hfw halone', finish_ofTokens_program hw halone,
            ← Draft.rename_ofProgram]
          exact finish_foldl_rename (s := ⟨closed, .pipeline (.ofProgram w)⟩) nofun nofun u e

end LineState

theorem SymbolSource.takeLine_rename (f : String → String) (q : List Symbol) :
    takeLine (q.map (Symbol.rename f)) =
      ((takeLine q).1.map (Token.rename f), (takeLine q).2.1,
        (takeLine q).2.2.map (Symbol.rename f)) := by
  have htokens (t : List Token) :
      (t.map Symbol.token).map (Symbol.rename f) = (t.map (Token.rename f)).map Symbol.token := by
    simp [Symbol.rename]
  obtain ⟨t, rfl⟩ | ⟨t, e, rest, rfl⟩ := Symbol.queue_cases q
  · rw [htokens, takeLine_tokens, takeLine_tokens]
    rfl
  · rw [List.map_append, htokens, List.map_cons, Symbol.rename, takeLine_queue, takeLine_queue]

namespace CommandReader

/-- Reading does not tell other words from each other. -/
theorem read_rename (r : CommandReader) {q : List Symbol} {f : String → String}
    (hcd : q.head? = some (.token (.word "cd")) ↔
      (q.map (Symbol.rename f)).head? = some (.token (.word "cd")))
    (hexit : Symbol.ofLine [.word "exit"] <+: q ↔
      Symbol.ofLine [.word "exit"] <+: q.map (Symbol.rename f)) :
    (r.read (q.map (Symbol.rename f))).1 = (r.read q).1.rename f := by
  rw [Symbol.head?_eq_word_iff, Symbol.head?_eq_word_iff, SymbolSource.takeLine_rename] at hcd
  rw [Symbol.ofLine_isPrefix_iff, Symbol.ofLine_isPrefix_iff, SymbolSource.takeLine_rename]
    at hexit
  rw [read_command, read_command, SymbolSource.takeLine_rename,
    ← LineState.finish_ofTokens_rename hcd hexit, Growable.map_clear]

/-- The shell enters a directory for a line that is `cd` and this directory, once, and for no
other line; it leaves for `exit` alone and at the end of the input, and for nothing else; and
anywhere but in these places `cd` and `exit` are words like any others. -/
theorem own_lines_only (r : CommandReader) (q : List Symbol) (w : World) :
    (∀ directory, Symbol.ofLine [.word "cd", .word directory] <+: q →
      (r.read q).1.attempts w = [directory] ∧
      (∀ w', w.changeDirectory directory = .ok w' → (r.read q).1.settle w = (.nothing, w')) ∧
      ∀ cause, w.changeDirectory directory = .error cause →
        (r.read q).1.settle w = (.error (.changeDirectory directory cause), w)) ∧
    ((∀ directory, ¬ Symbol.ofLine [.word "cd", .word directory] <+: q) →
      (r.read q).1.attempts w = [] ∧ ((r.read q).1.settle w).2 = w) ∧
    (((r.read q).1.settle w).1 = .leave ↔
      (q = [] ∨ q.head? = some (.lineEnd .endOfInput)) ∨
        Symbol.ofLine [.word "exit"] <+: q) ∧
    (∀ p, ((r.read q).1.settle w).1 = .run p →
      ∃ first rest, p.stages.toList = first :: rest ∧ first.program ≠ "cd") ∧
    ∀ f : String → String,
      (q.head? = some (.token (.word "cd")) ↔
        (q.map (Symbol.rename f)).head? = some (.token (.word "cd"))) →
      (Symbol.ofLine [.word "exit"] <+: q ↔
        Symbol.ofLine [.word "exit"] <+: q.map (Symbol.rename f)) →
      (r.read (q.map (Symbol.rename f))).1 = (r.read q).1.rename f := by
  refine ⟨fun directory hline ↦ ?_, fun hother ↦ ?_, ?_, fun p hrun ↦ ?_, fun f hcd hexit ↦ ?_⟩
  · rw [(r.read_eq_changeDirectory_iff q directory).2 hline]
    refine ⟨Command.attempts_changeDirectory directory w, fun w' hmoved ↦ ?_,
      fun cause hfails ↦ ?_⟩
    · rw [Command.settle, hmoved]
    · rw [Command.settle, hfails]
  · refine Command.inert_of_ne (fun directory hmove ↦ ?_) w
    exact hother directory ((r.read_eq_changeDirectory_iff q directory).1 hmove)
  · rw [Command.settle_eq_leave_iff, read_eq_leave_iff]
  · exact r.first_program_of_read_run q (Command.run_of_settle hrun)
  · exact r.read_rename hcd hexit

/-- As an argument, as a later program and as a file the two words stand for themselves. -/
example : ∃ p, Command.ofLine [.word "exit", .word "cd", .pipe, .word "cd", .writeTo, .word "exit"]
      .newline = .run p ∧
    p.stages.toList.map Stage.args = [["exit", "cd"], ["cd"]] ∧ p.output = some "exit" :=
  ⟨_, rfl, rfl, rfl⟩

end CommandReader

end PipeShell

import Mathlib
import PipeShell.Proofs.LineFronts
import PipeShell.Proofs.TokenByToken
import PipeShell.Session

/-!
# The first symbol that cannot be saved

The symbols read of a line are viable as long as some continuation of them makes a line that
is not turned down for what is written in it.  A line is turned down at its first symbol that
leaves nothing viable, for a reason that this symbol and those before it decide: whatever is
written behind it, the error is the same.
-/

namespace PipeShell

/-! ## Lines -/

/-- The symbols are those of one line: tokens, and an end. -/
def Symbol.IsLine (line : List Symbol) : Prop :=
  ∃ (tokens : List Token) (e : LineEnd), line = tokens.map .token ++ [.lineEnd e]

def Symbol.IsWord : Symbol → Prop
  | .token (.word _) => True
  | _ => False

/-- What a line begins with ends with one of its tokens or is the line. -/
theorem Symbol.begins_cases {front tokens : List Token} {x : Symbol} {lineEnd : LineEnd}
    (h : front.map .token ++ [x] <+: tokens.map .token ++ [.lineEnd lineEnd]) :
    (x = .lineEnd lineEnd ∧ front = tokens) ∨
      ∃ t behind, x = .token t ∧ tokens = front ++ t :: behind := by
  induction front generalizing tokens with
  | nil =>
      cases tokens with
      | nil => exact .inl ⟨(List.cons_prefix_cons.1 h).1, rfl⟩
      | cons t behind => exact .inr ⟨t, behind, (List.cons_prefix_cons.1 h).1, rfl⟩
  | cons first front ih =>
      cases tokens with
      | nil => cases (List.cons_prefix_cons.1 h).1
      | cons t tokens =>
          obtain ⟨hfirst, hrest⟩ := List.cons_prefix_cons.1 h
          obtain rfl := Symbol.token.inj hfirst
          obtain ⟨hx, rfl⟩ | ⟨t', behind, hx, rfl⟩ := ih hrest
          · exact .inl ⟨hx, rfl⟩
          · exact .inr ⟨t', behind, hx, rfl⟩

/-- Behind the end of a line nothing belongs to it. -/
theorem Symbol.eq_nil_of_isLine_append {tokens : List Token} {lineEnd : LineEnd}
    {rest : List Symbol}
    (h : Symbol.IsLine (tokens.map .token ++ [.lineEnd lineEnd] ++ rest)) : rest = [] := by
  obtain ⟨tokens', lineEnd', heq⟩ := h
  obtain ⟨hend, rfl⟩ | ⟨t, behind, hend, -⟩ := Symbol.begins_cases ⟨rest, heq⟩
  · rw [← hend] at heq
    exact List.append_right_eq_self.1 heq
  · cases hend

/-! ## The reasons to turn a line down -/

namespace LineFront

/-- Why a symbol cannot stand behind these tokens of a pipeline. -/
inductive StageFault (front : List Token) : Symbol → CommandError → Prop where
  | output (hsealed : Sealed front) : StageFault front (.token .writeTo) .misplacedOutput
  | pipe (hsealed : Sealed front) : StageFault front (.token .pipe) .misplacedPipe
  | input (hbehind : .pipe ∈ front ∨ .readFrom ∈ front) :
      StageFault front (.token .readFrom) .misplacedInput
  | newline (hawaiting : Awaiting front) :
      StageFault front (.lineEnd .newline) .noProgramAfterPipe
  | endOfInput : StageFault front (.lineEnd .endOfInput) .unexpectedEndOfInput

/-- Why a symbol cannot stand behind these tokens of a line. -/
inductive Fault : List Token → Symbol → CommandError → Prop where
  | first {t : Token} (hop : ¬ (Symbol.token t).IsWord) : Fault [] (.token t) .noInitialProgram
  | cd {x : Symbol} (hword : ¬ x.IsWord) : Fault [.word "cd"] x .cdArity
  | cdTo {directory : String} {x : Symbol} (hmore : x ≠ .lineEnd .newline) :
      Fault [.word "cd", .word directory] x .cdArity
  | outputFile {front : List Token} {x : Symbol} (hdue : front.getLast? = some .writeTo)
      (hword : ¬ x.IsWord) : Fault front x .missingOutputFile
  | inputFile {front : List Token} {x : Symbol} (hdue : front.getLast? = some .readFrom)
      (hword : ¬ x.IsWord) : Fault front x .missingInputFile
  | inStage {front : List Token} {x : Symbol} {e : CommandError} (hpipeline : InPipeline front)
      (hfault : StageFault front x e) : Fault front x e

namespace Fault

variable {front : List Token} {x : Symbol} {e : CommandError}

theorem nil_iff : Fault [] x e ↔ e = .noInitialProgram ∧ ∃ t, x = .token t ∧ ¬ x.IsWord := by
  constructor
  · intro h
    cases h with
    | first hop => exact ⟨rfl, _, rfl, hop⟩
    | outputFile hdue => cases hdue
    | inputFile hdue => cases hdue
    | inStage hpipeline => exact absurd rfl hpipeline.ne_nil
  · rintro ⟨rfl, t, rfl, hop⟩
    exact .first hop

theorem cd_iff : Fault [.word "cd"] x e ↔ e = .cdArity ∧ ¬ x.IsWord := by
  constructor
  · intro h
    cases h with
    | cd hword => exact ⟨rfl, hword⟩
    | outputFile hdue => cases hdue
    | inputFile hdue => cases hdue
    | inStage hpipeline => exact absurd rfl hpipeline.ne_cd
  · rintro ⟨rfl, hword⟩
    exact .cd hword

theorem cdTo_iff {directory : String} :
    Fault [.word "cd", .word directory] x e ↔ e = .cdArity ∧ x ≠ .lineEnd .newline := by
  constructor
  · intro h
    cases h with
    | cdTo hmore => exact ⟨rfl, hmore⟩
    | outputFile hdue => cases hdue
    | inputFile hdue => cases hdue
    | inStage hpipeline => exact absurd rfl (hpipeline.ne_cdTo directory)
  · rintro ⟨rfl, hmore⟩
    exact .cdTo hmore

theorem outputDue_iff (hdue : front.getLast? = some .writeTo) :
    Fault front x e ↔ e = .missingOutputFile ∧ ¬ x.IsWord := by
  constructor
  · intro h
    cases h with
    | first => cases hdue
    | cd => cases hdue
    | cdTo => cases hdue
    | outputFile _ hword => exact ⟨rfl, hword⟩
    | inputFile hdue' => cases hdue.symm.trans hdue'
    | inStage hpipeline => exact absurd hdue hpipeline.noOutputDue
  · rintro ⟨rfl, hword⟩
    exact .outputFile hdue hword

theorem inputDue_iff (hdue : front.getLast? = some .readFrom) :
    Fault front x e ↔ e = .missingInputFile ∧ ¬ x.IsWord := by
  constructor
  · intro h
    cases h with
    | first => cases hdue
    | cd => cases hdue
    | cdTo => cases hdue
    | outputFile hdue' => cases hdue.symm.trans hdue'
    | inputFile _ hword => exact ⟨rfl, hword⟩
    | inStage hpipeline => exact absurd hdue hpipeline.noInputDue
  · rintro ⟨rfl, hword⟩
    exact .inputFile hdue hword

theorem inPipeline_iff (hpipeline : InPipeline front) : Fault front x e ↔ StageFault front x e := by
  constructor
  · intro h
    cases h with
    | first => exact absurd rfl hpipeline.ne_nil
    | cd => exact absurd rfl hpipeline.ne_cd
    | cdTo => exact absurd rfl (hpipeline.ne_cdTo _)
    | outputFile hdue => exact absurd hdue hpipeline.noOutputDue
    | inputFile hdue => exact absurd hdue hpipeline.noInputDue
    | inStage _ hfault => exact hfault
  · exact .inStage hpipeline

theorem cause?_eq_none (h : Fault front x e) : e.cause? = none := by
  cases h with
  | inStage _ hfault => cases hfault <;> rfl
  | _ => rfl

end Fault

end LineFront

open LineFront (Fault StageFault InPipeline)

namespace LineState

variable {front : List Token} {e : CommandError} {s : LineState}

/-! ## What is refused, and why -/

/-- No token has been refused. -/
def GoesOn (s : LineState) : Prop :=
  ∀ e, s.phase ≠ .refused e

theorem goesOn_or_refused (s : LineState) : s.GoesOn ∨ ∃ e, s.phase = .refused e := by
  by_cases h : ∃ e, s.phase = .refused e
  · exact .inr h
  · exact .inl (not_exists.1 h)

theorem stageFault_of_stepPipeline {closed : Growable Stage} {d : Draft} (h : d.Records front)
    {t : Token} (hrefused : (stepPipeline closed d t).phase = .refused e) :
    StageFault front (.token t) e := by
  cases t with
  | word w =>
      simp only [stepPipeline] at hrefused
      split at hrefused <;> cases hrefused
  | pipe =>
      simp only [stepPipeline] at hrefused
      split at hrefused
      next hsealed =>
        cases hrefused
        exact .pipe (h.sealed.1 hsealed)
      next => cases hrefused
  | writeTo =>
      simp only [stepPipeline] at hrefused
      split at hrefused
      next hsealed =>
        cases hrefused
        exact .output (h.sealed.1 hsealed)
      next => cases hrefused
  | readFrom =>
      simp only [stepPipeline] at hrefused
      split at hrefused
      next => cases hrefused
      next hread =>
        cases hrefused
        rw [h.mayRead, not_and_or, not_not, not_not] at hread
        exact .input hread

theorem stepPipeline_of_stageFault (closed : Growable Stage) {d : Draft} (h : d.Records front)
    {t : Token} (hfault : StageFault front (.token t) e) :
    (stepPipeline closed d t).phase = .refused e := by
  cases hfault with
  | output hsealed => simp only [stepPipeline, h.sealed.2 hsealed, if_true]
  | pipe hsealed => simp only [stepPipeline, h.sealed.2 hsealed, if_true]
  | input hbehind =>
      have hread : ¬ d.mayRead = true := by
        rw [h.mayRead, not_and_or, not_not, not_not]
        exact hbehind
      simp only [stepPipeline, if_neg hread]

/-- Behind this symbol nothing can be made of the line any more. -/
def Refuses (s : LineState) (x : Symbol) (e : CommandError) : Prop :=
  match x with
  | .token t => (s.step t).phase = .refused e
  | .lineEnd lineEnd => s.finish lineEnd = .refused e

variable {x : Symbol} {closed : Growable Stage}

/-- Where only a word is due, operators and the end of the line are refused alike. -/
theorem refuses_iff_of_word_due {due : CommandError}
    (hword : ∀ w, (s.step (.word w)).phase ≠ .refused e)
    (hop : (s.step .pipe).phase = .refused due ∧ (s.step .writeTo).phase = .refused due ∧
      (s.step .readFrom).phase = .refused due)
    (hend : ∀ lineEnd, s.finish lineEnd = .refused due) :
    s.Refuses x e ↔ e = due ∧ ¬ x.IsWord := by
  obtain ⟨hpipe, hout, hin⟩ := hop
  cases x with
  | token t =>
      cases t with
      | word w => simp [Refuses, Symbol.IsWord, hword w]
      | pipe => simp [Refuses, Symbol.IsWord, hpipe, eq_comm]
      | writeTo => simp [Refuses, Symbol.IsWord, hout, eq_comm]
      | readFrom => simp [Refuses, Symbol.IsWord, hin, eq_comm]
  | lineEnd lineEnd => simp [Refuses, Symbol.IsWord, hend lineEnd, eq_comm]

theorem refuses_start_iff :
    (start closed).Refuses x e ↔ e = .noInitialProgram ∧ ∃ t, x = .token t ∧ ¬ x.IsWord := by
  cases x with
  | token t =>
      cases t with
      | word w =>
          simp only [Refuses, start, step]
          split
          · simp [Symbol.IsWord]
          · split <;> simp [Symbol.IsWord]
      | _ => simp [Refuses, start, step, Symbol.IsWord, eq_comm]
  | lineEnd lineEnd => cases lineEnd <;> simp [Refuses, start, finish]

theorem refuses_cdTo_iff {directory : String} :
    (LineState.mk closed (.cdTo directory)).Refuses x e ↔
      e = .cdArity ∧ x ≠ .lineEnd .newline := by
  cases x with
  | token t => cases t <;> simp [Refuses, step, eq_comm]
  | lineEnd lineEnd => cases lineEnd <;> simp [Refuses, finish, eq_comm]

theorem refuses_pipeline_iff {d : Draft} (h : d.Records front) :
    (LineState.mk closed (.pipeline d)).Refuses x e ↔ StageFault front x e := by
  constructor
  · intro hrefuses
    cases x with
    | token t => exact stageFault_of_stepPipeline h hrefuses
    | lineEnd lineEnd =>
        cases lineEnd with
        | newline =>
            simp only [Refuses, finish] at hrefuses
            split at hrefuses
            next hawaits =>
              cases hrefuses
              exact .newline (h.awaitsProgram.1 hawaits)
            next => cases hrefuses
        | endOfInput =>
            cases hrefuses
            exact .endOfInput
  · intro hfault
    cases x with
    | token t => exact stepPipeline_of_stageFault closed h hfault
    | lineEnd lineEnd =>
        cases hfault with
        | newline hawaiting => simp only [Refuses, finish, h.awaitsProgram.2 hawaiting, if_true]
        | endOfInput => rfl

/-- But for the end of its line, the word `exit` is like any other program. -/
theorem refuses_exit_iff :
    (LineState.mk closed .exit).Refuses x e ↔ StageFault [.word "exit"] x e := by
  have hprogram : (LineState.mk closed (.pipeline (.ofProgram "exit"))).Refuses x e ↔
      StageFault [.word "exit"] x e := refuses_pipeline_iff Draft.records_exit
  rw [← hprogram]
  cases x with
  | token t => exact Iff.rfl
  | lineEnd lineEnd => cases lineEnd <;> simp [Refuses, finish, Draft.ofProgram]

/-- As long as nothing has been refused, the symbols refused next are those that cannot stand
behind the tokens that have been read. -/
theorem refuses_iff_fault (h : s.phase.Records front) (hgoes : s.GoesOn) :
    s.Refuses x e ↔ Fault front x e := by
  obtain ⟨closed, phase⟩ := s
  cases phase with
  | start =>
      obtain rfl : front = [] := h
      rw [Fault.nil_iff]
      exact refuses_start_iff
  | exit =>
      obtain rfl : front = [.word "exit"] := h
      rw [Fault.inPipeline_iff Draft.records_exit.inPipeline]
      exact refuses_exit_iff
  | cd =>
      obtain rfl : front = [.word "cd"] := h
      rw [Fault.cd_iff]
      exact refuses_iff_of_word_due nofun ⟨rfl, rfl, rfl⟩ fun _ ↦ rfl
  | cdTo directory =>
      obtain rfl : front = [.word "cd", .word directory] := h
      rw [Fault.cdTo_iff]
      exact refuses_cdTo_iff
  | pipeline d =>
      have hrecords : d.Records front := h
      rw [Fault.inPipeline_iff hrecords.inPipeline]
      exact refuses_pipeline_iff hrecords
  | outputFile d =>
      obtain ⟨before, rfl, -⟩ := h
      rw [Fault.outputDue_iff List.getLast?_concat]
      exact refuses_iff_of_word_due nofun ⟨rfl, rfl, rfl⟩ fun _ ↦ rfl
  | inputFile d =>
      obtain ⟨before, rfl, -⟩ := h
      rw [Fault.inputDue_iff List.getLast?_concat]
      exact refuses_iff_of_word_due nofun ⟨rfl, rfl, rfl⟩ fun _ ↦ rfl
  | refused e => exact absurd rfl (hgoes e)

/-! ## What can be made of a line -/

theorem foldl_step_of_refused (h : s.phase = .refused e) (tokens : List Token) :
    (tokens.foldl step s).phase = .refused e := by
  obtain ⟨closed, phase⟩ := s
  obtain rfl : phase = .refused e := h
  rw [foldl_step_refused]

theorem finish_of_refused (h : s.phase = .refused e) (lineEnd : LineEnd) :
    s.finish lineEnd = .refused e := by
  obtain ⟨closed, phase⟩ := s
  obtain rfl : phase = .refused e := h
  rfl

theorem exists_rest_pipeline (closed : Growable Stage) (d : Draft) :
    ∃ rest : List Token,
      ∀ e, (rest.foldl step ⟨closed, .pipeline d⟩).finish .newline ≠ .refused e := by
  by_cases hawaits : d.awaitsProgram = true
  · refine ⟨[.word "a"], fun e ↦ ?_⟩
    simp [step, stepPipeline, finish, hawaits]
  · refine ⟨[], fun e ↦ ?_⟩
    simp [finish, hawaits]

/-- As long as nothing has been refused, the line can still be saved. -/
theorem exists_rest (hgoes : s.GoesOn) :
    ∃ rest : List Token, ∀ e, (rest.foldl step s).finish .newline ≠ .refused e := by
  obtain ⟨closed, phase⟩ := s
  cases phase with
  | start => exact ⟨[], nofun⟩
  | exit => exact ⟨[], nofun⟩
  | cd => exact ⟨[.word "d"], nofun⟩
  | cdTo directory => exact ⟨[], nofun⟩
  | pipeline d => exact exists_rest_pipeline closed d
  | outputFile d =>
      obtain ⟨rest, hrest⟩ :=
        exists_rest_pipeline closed { d with output := some "f", sealed := true }
      exact ⟨.word "f" :: rest, hrest⟩
  | inputFile d =>
      obtain ⟨rest, hrest⟩ :=
        exists_rest_pipeline closed { d with input := some "f", mayRead := false }
      exact ⟨.word "f" :: rest, hrest⟩
  | refused e => exact absurd rfl (hgoes e)

/-- A line that has been refused was refused at one of its tokens, and not before. -/
theorem exists_first_refused {tokens : List Token}
    (h : (ofTokens closed tokens).phase = .refused e) :
    ∃ front t behind, tokens = front ++ t :: behind ∧
      (ofTokens closed front).GoesOn ∧ (ofTokens closed front).Refuses (.token t) e := by
  induction tokens using List.reverseRecOn with
  | nil => cases h
  | append_singleton tokens t ih =>
      rw [ofTokens_concat] at h
      obtain hgoes | ⟨e', hrefused⟩ := (ofTokens closed tokens).goesOn_or_refused
      · exact ⟨tokens, t, [], rfl, hgoes, h⟩
      · obtain rfl : e = e' :=
          Phase.refused.inj (h.symm.trans (foldl_step_of_refused hrefused [t]))
        obtain ⟨front, t', behind, rfl, hfront, hstep⟩ := ih hrefused
        exact ⟨front, t', behind ++ [t], List.append_assoc .., hfront, hstep⟩

theorem map_concat_isPrefix (front : List Token) (t : Token) (behind : List Token) :
    front.map Symbol.token ++ [.token t] <+: (front ++ t :: behind).map .token := by
  rw [List.map_append, List.map_cons]
  exact ⟨behind.map .token, List.append_assoc ..⟩

/-- The first symbol of a line that is refused. -/
theorem exists_refuses {tokens : List Token} {lineEnd : LineEnd}
    (h : (ofTokens closed tokens).finish lineEnd = .refused e) :
    ∃ front x, front.map .token ++ [x] <+: tokens.map .token ++ [.lineEnd lineEnd] ∧
      (ofTokens closed front).GoesOn ∧ (ofTokens closed front).Refuses x e := by
  obtain hgoes | ⟨e', hrefused⟩ := (ofTokens closed tokens).goesOn_or_refused
  · exact ⟨tokens, .lineEnd lineEnd, List.prefix_rfl, hgoes, h⟩
  · obtain rfl : e = e' :=
      Command.refused.inj (h.symm.trans (finish_of_refused hrefused lineEnd))
    obtain ⟨front, t, behind, rfl, hfront, hstep⟩ := exists_first_refused hrefused
    refine ⟨front, .token t, ?_, hfront, hstep⟩
    exact (map_concat_isPrefix front t behind).trans (List.prefix_append _ _)

/-- Whatever stands behind a symbol that is refused, the line comes to that error. -/
theorem finish_of_refuses {tokens : List Token} {lineEnd : LineEnd}
    (hbegins : front.map .token ++ [x] <+: tokens.map .token ++ [.lineEnd lineEnd])
    (hrefuses : (ofTokens closed front).Refuses x e) :
    (ofTokens closed tokens).finish lineEnd = .refused e := by
  obtain ⟨rfl, rfl⟩ | ⟨t, behind, rfl, rfl⟩ := Symbol.begins_cases hbegins
  · exact hrefuses
  · rw [ofTokens, List.foldl_append]
    exact finish_of_refused (foldl_step_of_refused hrefuses behind) lineEnd

end LineState

theorem Command.refused_of_settle {c : Command} {w : World} {e : CommandError}
    (h : (c.settle w).1 = .error e) (hcause : e.cause? = none) : c = .refused e := by
  cases c with
  | refused e' =>
      cases h
      rfl
  | changeDirectory directory =>
      simp only [settle] at h
      split at h
      · cases h
      · cases h
        cases hcause
  | _ => cases h

namespace CommandReader

/-- What becomes of a line. -/
def outcome (r : CommandReader) (w : World) (line : List Symbol) : Outcome :=
  ((r.read line).1.settle w).1

/-- The symbols can be continued to a line that is not turned down, unless because its
directory cannot be entered. -/
def Viable (r : CommandReader) (w : World) (front : List Symbol) : Prop :=
  ∃ rest, Symbol.IsLine (front ++ rest) ∧
    ∀ e, r.outcome w (front ++ rest) = .error e → e.cause? ≠ none

variable {r : CommandReader} {w : World}

theorem outcome_line (r : CommandReader) (w : World) (tokens : List Token) (lineEnd : LineEnd) :
    r.outcome w (tokens.map .token ++ [.lineEnd lineEnd]) =
      (((LineState.ofTokens r.buffer.clear tokens).finish lineEnd).settle w).1 := by
  rw [outcome, read_command, SymbolSource.takeLine_queue]

theorem Viable.of_isPrefix {front more : List Symbol} (h : r.Viable w more)
    (hfront : front <+: more) : r.Viable w front := by
  obtain ⟨rest, hline, hstands⟩ := h
  obtain ⟨between, rfl⟩ := hfront
  rw [List.append_assoc] at hline hstands
  exact ⟨between ++ rest, hline, hstands⟩

variable {front : List Token} {x : Symbol} {e : CommandError}

theorem viable_of_goesOn (hgoes : (LineState.ofTokens r.buffer.clear front).GoesOn) :
    r.Viable w (front.map .token) := by
  obtain ⟨rest, hrest⟩ := LineState.exists_rest hgoes
  refine ⟨rest.map .token ++ [.lineEnd .newline], ⟨front ++ rest, .newline, ?_⟩, fun e h ↦ ?_⟩
  · rw [List.map_append, List.append_assoc]
  · rw [← List.append_assoc, ← List.map_append, outcome_line, LineState.ofTokens,
      List.foldl_append] at h
    intro hcause
    exact hrest e (Command.refused_of_settle h hcause)

/-- Before a token is refused, the symbols refused are those that cannot stand there. -/
theorem refuses_iff (hgoes : (LineState.ofTokens r.buffer.clear front).GoesOn) :
    (LineState.ofTokens r.buffer.clear front).Refuses x e ↔ Fault front x e :=
  LineState.refuses_iff_fault (LineState.records_ofTokens _ front) hgoes

/-- Whatever is written behind a symbol that cannot stand where it does, the error is the
same. -/
theorem outcome_of_fault (hgoes : (LineState.ofTokens r.buffer.clear front).GoesOn)
    (hfault : Fault front x e) {line : List Symbol} (hline : Symbol.IsLine line)
    (hbegins : front.map .token ++ [x] <+: line) : r.outcome w line = .error e := by
  obtain ⟨tokens, lineEnd, rfl⟩ := hline
  have hrefuses := (refuses_iff hgoes).2 hfault
  rw [outcome_line, LineState.finish_of_refuses hbegins hrefuses]
  rfl

theorem not_viable_of_fault (hgoes : (LineState.ofTokens r.buffer.clear front).GoesOn)
    (hfault : Fault front x e) : ¬ r.Viable w (front.map .token ++ [x]) := by
  rintro ⟨rest, hline, hstands⟩
  have hbegins := List.prefix_append (front.map .token ++ [x]) rest
  exact hstands e (outcome_of_fault hgoes hfault hline hbegins) hfault.cause?_eq_none

theorem goesOn_of_viable (h : r.Viable w (front.map .token)) :
    (LineState.ofTokens r.buffer.clear front).GoesOn := by
  intro e hrefused
  obtain ⟨before, t, behind, rfl, hgoes, hrefuses⟩ := LineState.exists_first_refused hrefused
  have hfault : Fault before (.token t) e := (refuses_iff hgoes).1 hrefuses
  exact not_viable_of_fault hgoes hfault
    (h.of_isPrefix (LineState.map_concat_isPrefix before t behind))

/-- Behind viable tokens, the symbols that leave nothing viable are those that cannot stand
there. -/
theorem not_viable_iff_fault (h : r.Viable w (front.map .token)) (x : Symbol) :
    ¬ r.Viable w (front.map .token ++ [x]) ↔ ∃ e, Fault front x e := by
  have hgoes := goesOn_of_viable h
  constructor
  · intro hhopeless
    by_contra hnone
    have hrefuses : ∀ e, ¬ (LineState.ofTokens r.buffer.clear front).Refuses x e :=
      fun e hrefuses ↦ hnone ⟨e, (refuses_iff hgoes).1 hrefuses⟩
    apply hhopeless
    cases x with
    | token t =>
        rw [← List.map_singleton, ← List.map_append]
        apply viable_of_goesOn
        rw [LineState.ofTokens_concat]
        exact hrefuses
    | lineEnd lineEnd =>
        refine ⟨[], ⟨front, lineEnd, List.append_nil _⟩, fun e herror hcause ↦ ?_⟩
        rw [List.append_nil, outcome_line] at herror
        exact hrefuses e (Command.refused_of_settle herror hcause)
  · rintro ⟨e, hfault⟩
    exact not_viable_of_fault hgoes hfault

/-- A line is turned down at its first symbol that leaves nothing viable, and then every line
that begins like it up to that symbol is turned down for the same reason, which is the only
one that the symbol and those before it give.  A line that is viable throughout is not turned
down. -/
theorem turned_down_at_first_hopeless (r : CommandReader) (w : World) (tokens : List Token)
    (lineEnd : LineEnd) :
    let line := tokens.map .token ++ [.lineEnd lineEnd]
    (∀ e, r.outcome w line = .error e → e.cause? = none →
      ∃ front x, front.map .token ++ [x] <+: line ∧
        (∀ before, before <+: front.map .token → r.Viable w before) ∧
        ¬ r.Viable w (front.map .token ++ [x]) ∧
        (∀ e', Fault front x e' ↔ e' = e) ∧
        ∀ line', Symbol.IsLine line' → front.map .token ++ [x] <+: line' →
          r.outcome w line' = .error e) ∧
      ((∀ before, before <+: line → r.Viable w before) →
        ∀ e, r.outcome w line = .error e → e.cause? ≠ none) := by
  intro line
  refine ⟨fun e herror hcause ↦ ?_, fun hviable e herror ↦ ?_⟩
  · rw [outcome_line] at herror
    obtain ⟨front, x, hbegins, hgoes, hrefuses⟩ :=
      LineState.exists_refuses (Command.refused_of_settle herror hcause)
    have hfault : Fault front x e := (refuses_iff hgoes).1 hrefuses
    have hline : Symbol.IsLine line := ⟨tokens, lineEnd, rfl⟩
    refine ⟨front, x, hbegins, ?_, not_viable_of_fault hgoes hfault, fun e' ↦ ⟨?_, ?_⟩, ?_⟩
    · exact fun before hbefore ↦ (viable_of_goesOn hgoes).of_isPrefix hbefore
    · intro hfault'
      have herror' : r.outcome w line = .error e' := outcome_of_fault hgoes hfault' hline hbegins
      exact Outcome.error.inj (herror'.symm.trans (outcome_of_fault hgoes hfault hline hbegins))
    · rintro rfl
      exact hfault
    · exact fun line' hline' hbegins' ↦ outcome_of_fault hgoes hfault hline' hbegins'
  · obtain ⟨rest, hline, hstands⟩ := hviable line List.prefix_rfl
    obtain rfl := Symbol.eq_nil_of_isLine_append hline
    rw [List.append_nil] at hstands
    exact hstands e herror

end CommandReader

end PipeShell

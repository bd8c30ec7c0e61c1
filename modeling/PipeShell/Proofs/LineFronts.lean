import Mathlib.Data.List.Induction
import PipeShell.Command.Draft

/-!
# What a phase knows of its tokens

The tokens that have been read of a line are told apart by what they have said: whether a
program is still due behind a pipe, whether the stage under way has its output file, and
whether an input file may follow.  A draft records just this, and reading a token keeps it so.
-/

namespace PipeShell

namespace LineFront

variable {front : List Token} {t : Token}

/-- The tokens begin a pipeline, and behind them no file name is due. -/
structure InPipeline (front : List Token) : Prop where
  ne_nil : front ≠ []
  ne_cd : front ≠ [.word "cd"]
  ne_cdTo : ∀ directory, front ≠ [.word "cd", .word directory]
  noOutputDue : front.getLast? ≠ some .writeTo
  noInputDue : front.getLast? ≠ some .readFrom

/-- A pipe has been read, and behind it no program. -/
def Awaiting (front : List Token) : Prop :=
  ∃ before, front = before ++ [.pipe] ∨
    ∃ file, front = before ++ [.pipe, .writeTo, .word file]

/-- A program has been given its output file. -/
def Outputs (front : List Token) : Prop :=
  ∃ before file behind, front = before ++ .writeTo :: .word file :: behind ∧
    before.getLast? ≠ some .pipe

/-- The stage under way has its output file. -/
def Sealed (front : List Token) : Prop :=
  Outputs front ∨ ∃ before file, front = before ++ [.pipe, .writeTo, .word file]

theorem of_concat_eq {α : Type u} {l before : List α} {a b : α} (behind : List α)
    (h : l ++ [a] = before ++ (behind ++ [b])) : l = before ++ behind ∧ a = b := by
  rw [← List.append_assoc] at h
  obtain ⟨hl, hlast⟩ := List.append_inj' h rfl
  exact ⟨hl, List.head_eq_of_cons_eq hlast⟩

theorem concat_ne_pipedOutput (h : front.getLast? ≠ some .writeTo) (before : List Token)
    (file : String) : front ++ [t] ≠ before ++ [.pipe, .writeTo, .word file] := by
  intro heq
  obtain ⟨rfl, -⟩ := of_concat_eq [Token.pipe, .writeTo] heq
  rw [List.append_cons] at h
  exact h List.getLast?_concat

theorem awaiting_concat (h : front.getLast? ≠ some .writeTo) :
    Awaiting (front ++ [t]) ↔ t = .pipe := by
  constructor
  · rintro ⟨before, heq | ⟨file, heq⟩⟩
    · exact (of_concat_eq [] heq).2
    · exact absurd heq (concat_ne_pipedOutput h before file)
  · rintro rfl
    exact ⟨front, .inl rfl⟩

theorem outputs_concat_iff :
    Outputs (front ++ [t]) ↔ Outputs front ∨
      ∃ before file, front = before ++ [.writeTo] ∧ t = .word file ∧
        before.getLast? ≠ some .pipe := by
  constructor
  · rintro ⟨before, file, behind, heq, hbefore⟩
    obtain rfl | ⟨behind, last, rfl⟩ := List.eq_nil_or_concat behind
    · obtain ⟨hfront, hlast⟩ := of_concat_eq [Token.writeTo] heq
      exact .inr ⟨before, file, hfront, hlast, hbefore⟩
    · rw [List.concat_eq_append] at heq
      obtain ⟨hfront, -⟩ := of_concat_eq (Token.writeTo :: .word file :: behind) heq
      exact .inl ⟨before, file, behind, hfront, hbefore⟩
  · rintro (⟨before, file, behind, rfl, hbefore⟩ | ⟨before, file, rfl, rfl, hbefore⟩)
    · exact ⟨before, file, behind ++ [t], List.append_assoc .., hbefore⟩
    · exact ⟨before, file, [], List.append_assoc .., hbefore⟩

theorem outputs_concat (h : front.getLast? ≠ some .writeTo) :
    Outputs (front ++ [t]) ↔ Outputs front := by
  rw [outputs_concat_iff]
  constructor
  · rintro (houtputs | ⟨before, file, rfl, -⟩)
    · exact houtputs
    · exact absurd List.getLast?_concat h
  · exact .inl

theorem sealed_concat (h : front.getLast? ≠ some .writeTo) :
    Sealed (front ++ [t]) ↔ Outputs front := by
  rw [Sealed, outputs_concat h]
  constructor
  · rintro (houtputs | ⟨before, file, heq⟩)
    · exact houtputs
    · exact absurd heq (concat_ne_pipedOutput h before file)
  · exact .inl

theorem InPipeline.concat (h : InPipeline front) (hout : t ≠ .writeTo) (hin : t ≠ .readFrom) :
    InPipeline (front ++ [t]) := by
  refine ⟨List.append_ne_nil_of_right_ne_nil _ (List.cons_ne_nil _ _), ?_, ?_, ?_, ?_⟩
  · intro heq
    have hsplit : front ++ [t] = [] ++ ([] ++ [.word "cd"]) := heq
    exact h.ne_nil (of_concat_eq [] hsplit).1
  · intro directory heq
    have hsplit : front ++ [t] = [] ++ ([.word "cd"] ++ [.word directory]) := heq
    exact h.ne_cd (of_concat_eq _ hsplit).1
  · simpa using hout
  · simpa using hin

theorem Sealed.outputs (h : Sealed front) (hawaiting : ¬ Awaiting front) : Outputs front := by
  obtain houtputs | ⟨before, file, heq⟩ := h
  · exact houtputs
  · exact absurd ⟨before, .inr ⟨file, heq⟩⟩ hawaiting

theorem not_outputs_nil : ¬ Outputs [] := by
  rintro ⟨before, file, behind, heq, -⟩
  exact List.append_ne_nil_of_right_ne_nil _ (List.cons_ne_nil _ _) heq.symm

theorem Awaiting.pipe_mem (h : Awaiting front) : Token.pipe ∈ front := by
  obtain ⟨before, rfl | ⟨file, rfl⟩⟩ := h <;> simp

theorem awaiting_outputFile {file : String} :
    Awaiting (front ++ [.writeTo] ++ [.word file]) ↔ ∃ before, front = before ++ [.pipe] := by
  constructor
  · rintro ⟨before, heq | ⟨file', heq⟩⟩
    · cases (of_concat_eq [] heq).2
    · obtain ⟨hfront, -⟩ := of_concat_eq [Token.pipe, .writeTo] heq
      exact ⟨before, (of_concat_eq [Token.pipe] hfront).1⟩
  · rintro ⟨before, rfl⟩
    exact ⟨before, .inr ⟨file, by simp⟩⟩

theorem sealed_outputFile (front : List Token) (file : String) :
    Sealed (front ++ [.writeTo] ++ [.word file]) := by
  by_cases hlast : front.getLast? = some .pipe
  · obtain ⟨before, rfl⟩ := List.getLast?_eq_some_iff.1 hlast
    exact .inr ⟨before, file, by simp⟩
  · exact .inl ⟨front, file, [], by simp, hlast⟩

/-- With its file a redirection is a part of a pipeline. -/
theorem inPipeline_file (front : List Token) {op : Token} (hop : ∀ text, op ≠ .word text)
    (file : String) : InPipeline (front ++ [op] ++ [.word file]) := by
  have hne : front ++ [op] ≠ [] :=
    List.append_ne_nil_of_right_ne_nil _ (List.cons_ne_nil _ _)
  refine ⟨List.append_ne_nil_of_right_ne_nil _ (List.cons_ne_nil _ _), ?_, ?_, ?_, ?_⟩
  · intro heq
    have hsplit : front ++ [op] ++ [.word file] = [] ++ ([] ++ [.word "cd"]) := heq
    exact hne (of_concat_eq [] hsplit).1
  · intro directory heq
    have hsplit : front ++ [op] ++ [.word file] = [] ++ ([.word "cd"] ++ [.word directory]) := heq
    have hfront : front ++ [op] = [] ++ ([] ++ [.word "cd"]) := (of_concat_eq _ hsplit).1
    exact hop _ (of_concat_eq [] hfront).2
  · simp
  · simp

end LineFront

open LineFront

/-- What a draft holds of the tokens it was made from. -/
structure Draft.Records (d : Draft) (front : List Token) : Prop where
  inPipeline : InPipeline front
  awaitsProgram : d.awaitsProgram = true ↔ Awaiting front
  sealed : d.sealed = true ↔ Sealed front
  mayRead : d.mayRead = true ↔ Token.pipe ∉ front ∧ Token.readFrom ∉ front
  /-- No pipe follows the output file of a program. -/
  notOutputs : Awaiting front → ¬ Outputs front

namespace Draft

variable {d : Draft} {front : List Token}

theorem records_ofProgram {program : String} (h : program ≠ "cd") :
    (ofProgram program).Records [.word program] := by
  have hlast : ([] : List Token).getLast? ≠ some .writeTo := nofun
  refine ⟨⟨?_, ?_, ?_, ?_, ?_⟩, ?_, ?_, ?_, ?_⟩
  · exact List.cons_ne_nil _ _
  · simpa using h
  · simp
  · simp
  · simp
  · rw [← List.nil_append [Token.word program], awaiting_concat hlast]
    simp [ofProgram]
  · rw [← List.nil_append [Token.word program], sealed_concat hlast]
    simp [ofProgram, not_outputs_nil]
  · simp [ofProgram]
  · rw [← List.nil_append [Token.word program], awaiting_concat hlast]
    nofun

theorem records_exit : (ofProgram "exit").Records [.word "exit"] :=
  records_ofProgram (by decide)

theorem Records.argument (h : d.Records front) (hawaits : d.awaitsProgram = false)
    (text : String) : Records { d with current := d.current.addArgument text }
      (front ++ [.word text]) := by
  have hlast := h.inPipeline.noOutputDue
  have hawaiting : ¬ Awaiting front := by
    rw [← h.awaitsProgram, hawaits]
    exact Bool.false_ne_true
  refine ⟨h.inPipeline.concat nofun nofun, ?_, ?_, ?_, ?_⟩
  · simp [awaiting_concat hlast, hawaits]
  · rw [sealed_concat hlast, h.sealed]
    exact ⟨fun hsealed ↦ hsealed.outputs hawaiting, .inl⟩
  · simpa using h.mayRead
  · simp [awaiting_concat hlast]

/-- The program behind a pipe begins a stage that has no output file yet. -/
theorem Records.program (h : d.Records front) (hawaits : d.awaitsProgram = true)
    (program : String) :
    Records { d with current := .ofProgram program, awaitsProgram := false, sealed := false }
      (front ++ [.word program]) := by
  have hlast := h.inPipeline.noOutputDue
  refine ⟨h.inPipeline.concat nofun nofun, ?_, ?_, ?_, ?_⟩
  · simp [awaiting_concat hlast]
  · simp [sealed_concat hlast, h.notOutputs (h.awaitsProgram.1 hawaits)]
  · simpa using h.mayRead
  · simp [awaiting_concat hlast]

theorem Records.notOutputs_of_sealed (h : d.Records front) (hsealed : d.sealed = false) :
    ¬ Outputs front := by
  intro houtputs
  rw [h.sealed.2 (.inl houtputs)] at hsealed
  cases hsealed

theorem Records.pipe (h : d.Records front) (hsealed : d.sealed = false) :
    Records { d with awaitsProgram := true, mayRead := false } (front ++ [.pipe]) := by
  have hlast := h.inPipeline.noOutputDue
  have houtputs := h.notOutputs_of_sealed hsealed
  refine ⟨h.inPipeline.concat nofun nofun, ?_, ?_, ?_, ?_⟩
  · simp [awaiting_concat hlast]
  · simp [sealed_concat hlast, houtputs, hsealed]
  · simp
  · rw [outputs_concat hlast]
    exact fun _ ↦ houtputs

theorem Records.output (h : d.Records front) (hsealed : d.sealed = false) (file : String) :
    Records { d with output := some file, sealed := true }
      (front ++ [.writeTo] ++ [.word file]) := by
  have houtputs := h.notOutputs_of_sealed hsealed
  refine ⟨inPipeline_file front (by simp) file, ?_, ?_, ?_, ?_⟩
  · rw [awaiting_outputFile, h.awaitsProgram]
    constructor
    · rintro ⟨before, heq | ⟨file', heq⟩⟩
      · exact ⟨before, heq⟩
      · rw [h.sealed.2 (.inr ⟨before, file', heq⟩)] at hsealed
        cases hsealed
    · rintro ⟨before, heq⟩
      exact ⟨before, .inl heq⟩
  · simp only [true_iff]
    exact sealed_outputFile front file
  · simpa using h.mayRead
  · rw [awaiting_outputFile, outputs_concat_iff, outputs_concat h.inPipeline.noOutputDue]
    rintro ⟨before, rfl⟩ (hmore | ⟨before', file', heq, -, hlast⟩)
    · exact houtputs hmore
    · rw [← (of_concat_eq [] heq).1.trans (List.append_nil _)] at hlast
      exact hlast List.getLast?_concat

theorem Records.input (h : d.Records front) (hread : d.mayRead = true) (file : String) :
    Records { d with input := some file, mayRead := false }
      (front ++ [.readFrom] ++ [.word file]) := by
  have hlast : (front ++ [Token.readFrom]).getLast? ≠ some .writeTo := by simp
  have hpipe := (h.mayRead.1 hread).1
  have hawaiting : ¬ Awaiting front := fun h ↦ hpipe h.pipe_mem
  have hawaits : d.awaitsProgram = false := by
    rw [← Bool.not_eq_true, h.awaitsProgram]
    exact hawaiting
  refine ⟨inPipeline_file front (by simp) file, ?_, ?_, ?_, ?_⟩
  · rw [awaiting_concat hlast, hawaits]
    exact ⟨nofun, nofun⟩
  · rw [sealed_concat hlast, outputs_concat h.inPipeline.noOutputDue, h.sealed]
    exact ⟨fun hsealed ↦ hsealed.outputs hawaiting, .inl⟩
  · simp
  · rw [awaiting_concat hlast]
    nofun

end Draft

/-! ## Phases -/

/-- What a phase holds of the tokens that have led to it. -/
def Phase.Records (front : List Token) : Phase → Prop
  | .start => front = []
  | .exit => front = [.word "exit"]
  | .cd => front = [.word "cd"]
  | .cdTo directory => front = [.word "cd", .word directory]
  | .pipeline d => d.Records front
  | .outputFile d => ∃ before, front = before ++ [.writeTo] ∧ d.Records before ∧ d.sealed = false
  | .inputFile d => ∃ before, front = before ++ [.readFrom] ∧ d.Records before ∧ d.mayRead = true
  | .refused _ => True

namespace LineState

variable {front : List Token}

theorem records_stepPipeline (closed : Growable Stage) {d : Draft} (h : d.Records front)
    (t : Token) : (stepPipeline closed d t).phase.Records (front ++ [t]) := by
  cases t with
  | word w =>
      simp only [stepPipeline]
      split
      next hawaits => exact h.program hawaits w
      next hawaits => exact h.argument (Bool.eq_false_iff.2 hawaits) w
  | pipe =>
      simp only [stepPipeline]
      split
      next => trivial
      next hsealed => exact h.pipe (Bool.eq_false_iff.2 hsealed)
  | writeTo =>
      simp only [stepPipeline]
      split
      next => trivial
      next hsealed => exact ⟨front, rfl, h, Bool.eq_false_iff.2 hsealed⟩
  | readFrom =>
      simp only [stepPipeline]
      split
      next hread => exact ⟨front, rfl, h, hread⟩
      next => trivial

theorem records_step {s : LineState} (h : s.phase.Records front) (t : Token) :
    (s.step t).phase.Records (front ++ [t]) := by
  obtain ⟨closed, phase⟩ := s
  cases phase with
  | start =>
      obtain rfl : front = [] := h
      cases t with
      | word w =>
          simp only [step]
          split
          next hexit => rw [hexit]; rfl
          next =>
            split
            next hcd => rw [hcd]; rfl
            next hcd => exact Draft.records_ofProgram hcd
      | _ => trivial
  | exit =>
      obtain rfl : front = [.word "exit"] := h
      exact records_stepPipeline closed Draft.records_exit t
  | cd =>
      obtain rfl : front = [.word "cd"] := h
      cases t with
      | word w => rfl
      | _ => trivial
  | cdTo directory => cases t <;> trivial
  | pipeline d => exact records_stepPipeline closed h t
  | outputFile d =>
      obtain ⟨before, rfl, hrecords, hsealed⟩ := h
      cases t with
      | word w => exact hrecords.output hsealed w
      | _ => trivial
  | inputFile d =>
      obtain ⟨before, rfl, hrecords, hread⟩ := h
      cases t with
      | word w => exact hrecords.input hread w
      | _ => trivial
  | refused e => cases t <;> trivial

theorem ofTokens_concat (closed : Growable Stage) (front : List Token) (t : Token) :
    ofTokens closed (front ++ [t]) = (ofTokens closed front).step t := by
  rw [ofTokens, List.foldl_append]
  rfl

theorem records_ofTokens (closed : Growable Stage) (front : List Token) :
    (ofTokens closed front).phase.Records front := by
  induction front using List.reverseRecOn with
  | nil => rfl
  | append_singleton front t ih =>
      rw [ofTokens_concat]
      exact records_step ih t

end LineState

end PipeShell

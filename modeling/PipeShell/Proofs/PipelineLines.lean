import PipeShell.Proofs.LineGrammar
import PipeShell.Proofs.TokenByToken

/-!
# Lines that are read as pipelines

The automaton of `LineState` accepts exactly the legal forms of the grammar.
Completeness follows the form: what a draft becomes behind an item, behind a
segment and behind all segments.  Soundness follows the tokens: whatever leads a
draft to a pipeline splits into items and segments that may follow this draft.
-/

namespace PipeShell

namespace LineState

/-- What the line asks for if its newline comes behind these tokens. -/
def atNewline (s : LineState) (t : List Token) : Command :=
  (t.foldl step s).finish .newline

@[simp] theorem atNewline_nil (s : LineState) : s.atNewline [] = s.finish .newline := rfl

@[simp] theorem atNewline_cons (s : LineState) (a : Token) (t : List Token) :
    s.atNewline (a :: t) = (s.step a).atNewline t := rfl

theorem atNewline_append (s : LineState) (t u : List Token) :
    s.atNewline (t ++ u) = (t.foldl step s).atNewline u := by
  simp [atNewline]

@[simp] theorem atNewline_refused (closed : Growable Stage) (e : CommandError)
    (t : List Token) : atNewline ⟨closed, .refused e⟩ t = .refused e := by
  induction t with
  | nil => rfl
  | cons a t ih => simpa [step] using ih

end LineState

theorem CommandReader.read_ofLine_eq_atNewline (r : CommandReader) (t : List Token)
    (rest : List Symbol) :
    (r.read (Symbol.ofLine t ++ rest)).1 = (LineState.start r.buffer.clear).atNewline t :=
  r.read_ofLine t rest

/-! ## The first word -/

namespace LineState

variable {closed : Growable Stage}

/-- A first word other than `cd` begins a pipeline, unless it is `exit` alone. -/
theorem atNewline_start_word {w : String} {t : List Token} (hcd : w ≠ "cd")
    (hexit : .word w :: t ≠ [.word "exit"]) :
    (start closed).atNewline (.word w :: t) =
      atNewline ⟨closed, .pipeline (.ofProgram w)⟩ t := by
  by_cases hw : w = "exit"
  · subst hw
    cases t with
    | nil => exact (hexit rfl).elim
    | cons a t => rfl
  · simp [start, step, hw, hcd]

/-- A line that begins with `cd` is no pipeline. -/
theorem atNewline_start_cd_ne_run (t : List Token) (p : Pipeline) :
    (start closed).atNewline (.word "cd" :: t) ≠ .run p := by
  match t with
  | [] => simp [start, step, finish]
  | [.word w] => simp [start, step, finish]
  | .word w :: a :: t => simp [start, step]
  | .pipe :: t => simp [start, step]
  | .readFrom :: t => simp [start, step]
  | .writeTo :: t => simp [start, step]

/-- Only a line that begins with a program is a pipeline. -/
theorem exists_program_of_run {t : List Token} {p : Pipeline}
    (h : (start closed).atNewline t = .run p) :
    t ≠ [.word "exit"] ∧ ∃ w u, t = .word w :: u ∧ w ≠ "cd" ∧
      atNewline ⟨closed, .pipeline (.ofProgram w)⟩ u = .run p := by
  have hexit : t ≠ [.word "exit"] := by
    rintro rfl
    simp [start, step, finish] at h
  refine ⟨hexit, ?_⟩
  cases t with
  | nil => simp [start, finish] at h
  | cons token u =>
      cases token with
      | word w =>
          have hcd : w ≠ "cd" := by
            rintro rfl
            exact atNewline_start_cd_ne_run u p h
          exact ⟨w, u, rfl, hcd, atNewline_start_word hcd hexit ▸ h⟩
      | _ => simp [start, step] at h

end LineState

/-! ## Legal forms are accepted -/

/-- The last of a list of values, put in front of others, is all that counts of it
for the last value of all. -/
theorem getLast?_toList_append {α : Type u} (l m : List α) :
    (l.getLast?.toList ++ m).getLast? = (l ++ m).getLast? := by
  rw [List.getLast?_append, List.getLast?_append]
  cases l.getLast? <;> simp

namespace Draft

/-- The draft behind an item. -/
def withItem (d : Draft) : Item → Draft
  | .argument text => { d with current := d.current.addArgument text }
  | .input path => { d with input := some path, mayRead := false }
  | .output path => { d with output := some path, sealed := true }

/-- The draft behind some items. -/
def withItems (d : Draft) (items : List Item) : Draft :=
  items.foldl withItem d

theorem withItems_cons (d : Draft) (item : Item) (items : List Item) :
    d.withItems (item :: items) = (d.withItem item).withItems items := rfl

@[simp] theorem awaitsProgram_withItems (d : Draft) (items : List Item) :
    (d.withItems items).awaitsProgram = d.awaitsProgram := by
  induction items generalizing d with
  | nil => rfl
  | cons item items ih => cases item <;> simp [withItems_cons, ih, withItem]

theorem args_withItems (d : Draft) (items : List Item) :
    (d.withItems items).current.args = d.current.args ++ items.filterMap Item.argument? := by
  induction items generalizing d with
  | nil => simp [withItems]
  | cons item items ih =>
      cases item <;>
        simp [withItems_cons, ih, withItem, Item.argument?, List.filterMap_cons]

theorem input_withItems (d : Draft) (items : List Item) :
    (d.withItems items).input = (d.input.toList ++ items.filterMap Item.input?).getLast? := by
  induction items generalizing d with
  | nil => cases h : d.input <;> simp [withItems, h]
  | cons item items ih =>
      rw [withItems_cons, ih]
      cases item <;> cases h : d.input <;> simp [withItem, Item.input?, List.filterMap_cons, h]

theorem output_withItems (d : Draft) (items : List Item) :
    (d.withItems items).output = (d.output.toList ++ items.filterMap Item.output?).getLast? := by
  induction items generalizing d with
  | nil => cases h : d.output <;> simp [withItems, h]
  | cons item items ih =>
      rw [withItems_cons, ih]
      cases item <;> cases h : d.output <;> simp [withItem, Item.output?, List.filterMap_cons, h]

/-- Items without a `>` leave a stage open. -/
theorem sealed_withItems {d : Draft} {items : List Item}
    (h : items.filterMap Item.output? = []) : (d.withItems items).sealed = d.sealed := by
  induction items generalizing d with
  | nil => rfl
  | cons item items ih =>
      cases item with
      | argument text => exact ih (by simpa [Item.output?] using h)
      | input path => exact ih (by simpa [Item.output?] using h)
      | output path => simp [Item.output?] at h

/-- The draft behind a pipe and the segment that follows it. -/
def withSegment (d : Draft) (s : Segment) : Draft :=
  withItems ⟨.ofProgram s.program, d.input, s.early.or d.output, false, false, false⟩ s.items

end Draft

namespace LineState

/-- Items are read one by one as long as there are no more `<` and `>` than the
draft has room for. -/
theorem foldl_items (closed : Growable Stage) (d : Draft) (items : List Item)
    (hawaits : d.awaitsProgram = false)
    (hinputs : (items.filterMap Item.input?).length ≤ d.mayRead.toNat)
    (houtputs : (items.filterMap Item.output?).length ≤ (!d.sealed).toNat) :
    (items.flatMap Item.tokens).foldl step ⟨closed, .pipeline d⟩ =
      ⟨closed, .pipeline (d.withItems items)⟩ := by
  induction items generalizing d with
  | nil => rfl
  | cons item items ih =>
      rw [List.flatMap_cons, List.foldl_append, Draft.withItems_cons]
      cases item with
      | argument text =>
          rw [← ih (d.withItem (.argument text)) hawaits hinputs houtputs]
          simp [Item.tokens, step, stepPipeline, hawaits, Draft.withItem]
      | input path =>
          have hread : d.mayRead = true := by
            cases h : d.mayRead <;> simp [h, Item.input?] at hinputs ⊢
          simp only [List.filterMap_cons, Item.input?, List.length_cons, hread, Bool.toNat_true,
            Nat.succ_le_succ_iff, Nat.le_zero] at hinputs
          rw [← ih (d.withItem (.input path)) hawaits (by omega) houtputs]
          simp [Item.tokens, step, stepPipeline, hread, Draft.withItem]
      | output path =>
          have hsealed : d.sealed = false := by
            cases h : d.sealed <;> simp [h, Item.output?] at houtputs ⊢
          simp only [List.filterMap_cons, Item.output?, List.length_cons, hsealed, Bool.not_false,
            Bool.toNat_true, Nat.succ_le_succ_iff, Nat.le_zero] at houtputs
          rw [← ih (d.withItem (.output path)) hawaits hinputs (by omega)]
          simp [Item.tokens, step, stepPipeline, hsealed, Draft.withItem]

theorem foldl_pipes (closed : Growable Stage) (d : Draft) (extra : Nat)
    (hsealed : d.sealed = false) :
    (List.replicate (extra + 1) Token.pipe).foldl step ⟨closed, .pipeline d⟩ =
      ⟨closed, .pipeline { d with awaitsProgram := true, mayRead := false }⟩ := by
  induction extra generalizing d with
  | zero => simp [step, stepPipeline, hsealed]
  | succ extra ih =>
      have hstep : step ⟨closed, .pipeline d⟩ .pipe =
          ⟨closed, .pipeline { d with awaitsProgram := true, mayRead := false }⟩ := by
        simp [step, stepPipeline, hsealed]
      rw [List.replicate_succ, List.foldl_cons, hstep]
      exact ih { d with awaitsProgram := true, mayRead := false } hsealed

/-- A pipe and a segment behind it close the stage before. -/
theorem foldl_segment (closed : Growable Stage) (d : Draft) (extra : Nat) (s : Segment)
    (hsealed : d.sealed = false) (hinputs : s.inputs = []) (houtputs : s.outputs.length ≤ 1) :
    (List.replicate (extra + 1) Token.pipe ++ s.tokens).foldl step ⟨closed, .pipeline d⟩ =
      ⟨closed.push d.current, .pipeline (d.withSegment s)⟩ := by
  rw [List.foldl_append, foldl_pipes closed d extra hsealed, Segment.tokens, List.foldl_append,
    List.foldl_cons]
  have hopen : step (List.foldl step
        ⟨closed, .pipeline { d with awaitsProgram := true, mayRead := false }⟩
        (Segment.earlyTokens s.early)) (.word s.program) =
      ⟨closed.push d.current, .pipeline
        ⟨.ofProgram s.program, d.input, s.early.or d.output, false, false, false⟩⟩ := by
    cases s.early <;> simp [Segment.earlyTokens, step, stepPipeline, hsealed]
  rw [hopen]
  refine foldl_items _ _ s.items rfl ?_ houtputs
  change s.inputs.length ≤ 0
  simp [hinputs]

end LineState

/-- The segments that may follow a stage without a `>`. -/
structure PipedSegments.Legal (rest : PipedSegments) : Prop where
  inputs : ∀ s ∈ rest.segments, s.inputs = []
  outputs : ∀ s ∈ rest.segments, s.outputs.length ≤ 1
  outputs_last : ∀ s ∈ rest.segments.dropLast, s.outputs = []

theorem PipedSegments.legal_nil : PipedSegments.Legal [] :=
  ⟨by simp [segments], by simp [segments], by simp [segments]⟩

theorem PipedSegments.legal_cons_iff {extra : Nat} {s : Segment} {rest : PipedSegments} :
    PipedSegments.Legal ((extra, s) :: rest) ↔
      s.inputs = [] ∧ s.outputs.length ≤ 1 ∧ (rest ≠ [] → s.outputs = []) ∧ rest.Legal := by
  have hlast : (∀ a ∈ (s :: segments rest).dropLast, a.outputs = []) ↔
      (rest ≠ [] → s.outputs = []) ∧ ∀ a ∈ (segments rest).dropLast, a.outputs = [] := by
    cases rest with
    | nil => simp [segments]
    | cons piped rest => simp [segments]
  constructor
  · rintro ⟨hinputs, houtputs, houtputsLast⟩
    simp only [segments_cons, List.forall_mem_cons] at hinputs houtputs
    obtain ⟨hs, hrest⟩ := hlast.1 houtputsLast
    exact ⟨hinputs.1, houtputs.1, hs, hinputs.2, houtputs.2, hrest⟩
  · rintro ⟨hinputs, houtputs, hs, hrest⟩
    refine ⟨?_, ?_, hlast.2 ⟨hs, hrest.outputs_last⟩⟩
    · exact List.forall_mem_cons.2 ⟨hinputs, hrest.inputs⟩
    · exact List.forall_mem_cons.2 ⟨houtputs, hrest.outputs⟩

theorem LineForm.legal_iff {f : LineForm} :
    f.Legal ↔ f.first.early = none ∧ f.first.inputs.length ≤ 1 ∧ f.first.outputs.length ≤ 1 ∧
      (f.rest ≠ [] → f.first.outputs = []) ∧ f.rest.Legal := by
  have hlast : (∀ a ∈ f.segments.dropLast, a.outputs = []) ↔
      (f.rest ≠ [] → f.first.outputs = []) ∧
        ∀ a ∈ f.rest.segments.dropLast, a.outputs = [] := by
    cases h : f.rest with
    | nil => simp [segments, PipedSegments.segments, h]
    | cons piped rest => simp [segments, PipedSegments.segments, h]
  constructor
  · rintro ⟨hearly, hinputs, hrestInputs, houtputs, houtputsLast⟩
    simp only [segments, List.forall_mem_cons] at houtputs
    obtain ⟨hfirst, hrest⟩ := hlast.1 houtputsLast
    exact ⟨hearly, hinputs, houtputs.1, hfirst, hrestInputs, houtputs.2, hrest⟩
  · rintro ⟨hearly, hinputs, houtputs, hfirst, hrest⟩
    refine ⟨hearly, hinputs, hrest.inputs, ?_, hlast.2 ⟨hfirst, hrest.outputs_last⟩⟩
    exact List.forall_mem_cons.2 ⟨houtputs, hrest.outputs⟩

namespace LineState

/-- Behind a stage that is open, legal segments complete the pipeline. -/
theorem exists_run_segments (closed : Growable Stage) (d : Draft) (rest : PipedSegments)
    (hlegal : rest.Legal) (hawaits : d.awaitsProgram = false)
    (hsealed : rest ≠ [] → d.sealed = false) :
    ∃ p, atNewline ⟨closed, .pipeline d⟩ rest.tokens = .run p ∧
      p.stages.toList.map Stage.args =
        closed.toList.map Stage.args ++ d.current.args :: rest.segments.map Segment.args ∧
      p.input = d.input ∧
      p.output = (d.output.toList ++ rest.segments.flatMap Segment.allOutputs).getLast? := by
  induction rest generalizing closed d with
  | nil =>
      refine ⟨⟨closed.push d.current, d.input, d.output⟩, ?_, ?_, rfl, ?_⟩
      · simp [PipedSegments.tokens, finish, hawaits]
      · simp [PipedSegments.segments]
      · cases h : d.output <;> simp [PipedSegments.segments]
  | cons piped rest ih =>
      obtain ⟨extra, s⟩ := piped
      obtain ⟨hinputs, houtputs, hlast, hrest⟩ := PipedSegments.legal_cons_iff.1 hlegal
      have hopen : rest ≠ [] → (d.withSegment s).sealed = false := fun hne ↦
        Draft.sealed_withItems (hlast hne)
      obtain ⟨p, hrun, hstages, hinput, houtput⟩ :=
        ih (closed.push d.current) (d.withSegment s) hrest
          (Draft.awaitsProgram_withItems _ _) hopen
      refine ⟨p, ?_, ?_, ?_, ?_⟩
      · rw [PipedSegments.tokens_cons, atNewline_append,
          foldl_segment closed d extra s (hsealed (by simp)) hinputs houtputs]
        exact hrun
      · rw [hstages, Draft.withSegment, Draft.args_withItems]
        simp [PipedSegments.segments, Segment.args]
      · have hnone : s.items.filterMap Item.input? = [] := hinputs
        rw [hinput, Draft.withSegment, Draft.input_withItems, hnone]
        cases d.input <;> rfl
      · have hearly : (s.early.or d.output).toList ++ s.outputs =
            (d.output.toList ++ s.early.toList).getLast?.toList ++ s.outputs := by
          cases s.early <;> cases d.output <;> rfl
        have houtputs : (d.withSegment s).output =
            (d.output.toList ++ s.allOutputs).getLast? := by
          rw [Draft.withSegment, Draft.output_withItems]
          change ((s.early.or d.output).toList ++ s.outputs).getLast? = _
          rw [hearly, getLast?_toList_append, Segment.allOutputs, List.append_assoc]
        rw [houtput, houtputs, getLast?_toList_append]
        simp [PipedSegments.segments]

end LineState

theorem getLast?_eq_head?_of_length_le_one {α : Type u} {l : List α} (h : l.length ≤ 1) :
    l.getLast? = l.head? := by
  cases l with
  | nil => rfl
  | cons a rest =>
      obtain rfl : rest = [] := by simpa using h
      rfl

/-- A legal form is read as the pipeline that it means. -/
theorem LineForm.exists_run (closed : Growable Stage) {f : LineForm} (hlegal : f.Legal)
    (hcd : f.first.program ≠ "cd") (hexit : f.tokens ≠ [.word "exit"]) :
    ∃ p, (LineState.start closed).atNewline f.tokens = .run p ∧
      p.stages.toList.map Stage.args = closed.toList.map Stage.args ++ f.args ∧
      p.input = f.input ∧ p.output = f.output := by
  obtain ⟨hearly, hinputs, houtputs, hlast, hrest⟩ := LineForm.legal_iff.1 hlegal
  have htokens : f.tokens = .word f.first.program ::
      (f.first.items.flatMap Item.tokens ++ f.rest.tokens) := by
    simp [LineForm.tokens, Segment.tokens, Segment.earlyTokens, hearly]
  have hitems := LineState.foldl_items closed (.ofProgram f.first.program) f.first.items rfl
    hinputs houtputs
  obtain ⟨p, hrun, hstages, hinput, houtput⟩ := LineState.exists_run_segments closed
    ((Draft.ofProgram f.first.program).withItems f.first.items) f.rest hrest
    (Draft.awaitsProgram_withItems _ _) (fun hne ↦ Draft.sealed_withItems (hlast hne))
  refine ⟨p, ?_, ?_, ?_, ?_⟩
  · rw [htokens] at hexit ⊢
    rw [LineState.atNewline_start_word hcd hexit, LineState.atNewline_append, hitems]
    exact hrun
  · rw [hstages, Draft.args_withItems]
    rfl
  · rw [hinput, Draft.input_withItems]
    exact getLast?_eq_head?_of_length_le_one hinputs
  · rw [houtput, Draft.output_withItems, getLast?_toList_append]
    simp [Draft.ofProgram, LineForm.output, LineForm.segments, Segment.allOutputs,
      Segment.outputs, hearly]

/-! ## What is accepted has a legal form -/

/-- `d.Completes closed t p` says how the tokens `t` lead the draft `d`, with the stages
`closed` before it, to the pipeline `p`: word by word, pipe by pipe, and each
redirection together with its file. -/
inductive Draft.Completes : Growable Stage → Draft → List Token → Pipeline → Prop where
  | done {closed : Growable Stage} {d : Draft} (hawaits : d.awaitsProgram = false) :
      Completes closed d [] ⟨closed.push d.current, d.input, d.output⟩
  | program {closed : Growable Stage} {d : Draft} {t : List Token} {p : Pipeline} (w : String)
      (hawaits : d.awaitsProgram = true)
      (h : Completes (closed.push d.current)
        { d with current := .ofProgram w, awaitsProgram := false, sealed := false } t p) :
      Completes closed d (.word w :: t) p
  | argument {closed : Growable Stage} {d : Draft} {t : List Token} {p : Pipeline} (w : String)
      (hawaits : d.awaitsProgram = false)
      (h : Completes closed { d with current := d.current.addArgument w } t p) :
      Completes closed d (.word w :: t) p
  | pipe {closed : Growable Stage} {d : Draft} {t : List Token} {p : Pipeline}
      (hsealed : d.sealed = false)
      (h : Completes closed { d with awaitsProgram := true, mayRead := false } t p) :
      Completes closed d (.pipe :: t) p
  | output {closed : Growable Stage} {d : Draft} {t : List Token} {p : Pipeline} (path : String)
      (hsealed : d.sealed = false)
      (h : Completes closed { d with output := some path, sealed := true } t p) :
      Completes closed d (.writeTo :: .word path :: t) p
  | input {closed : Growable Stage} {d : Draft} {t : List Token} {p : Pipeline} (path : String)
      (hread : d.mayRead = true)
      (h : Completes closed { d with input := some path, mayRead := false } t p) :
      Completes closed d (.readFrom :: .word path :: t) p

namespace Draft

/-- No other way than `Completes` leads a draft to a pipeline. -/
theorem completes_of_run {closed : Growable Stage} {d : Draft} {p : Pipeline} (t : List Token)
    (h : LineState.atNewline ⟨closed, .pipeline d⟩ t = .run p) : Completes closed d t p := by
  match t with
  | [] =>
      cases hawaits : d.awaitsProgram with
      | true => simp [LineState.finish, hawaits] at h
      | false =>
          obtain rfl : ⟨closed.push d.current, d.input, d.output⟩ = p := by
            simpa [LineState.finish, hawaits] using h
          exact .done hawaits
  | .word w :: t =>
      cases hawaits : d.awaitsProgram with
      | true => exact .program w hawaits (completes_of_run t (by
          simpa [LineState.step, LineState.stepPipeline, hawaits] using h))
      | false => exact .argument w hawaits (completes_of_run t (by
          simpa [LineState.step, LineState.stepPipeline, hawaits] using h))
  | .pipe :: t =>
      cases hsealed : d.sealed with
      | true => simp [LineState.step, LineState.stepPipeline, hsealed] at h
      | false => exact .pipe hsealed (completes_of_run t (by
          simpa [LineState.step, LineState.stepPipeline, hsealed] using h))
  | .writeTo :: .word path :: t =>
      cases hsealed : d.sealed with
      | true => simp [LineState.step, LineState.stepPipeline, hsealed] at h
      | false => exact .output path hsealed (completes_of_run t (by
          simpa [LineState.step, LineState.stepPipeline, hsealed] using h))
  | .readFrom :: .word path :: t =>
      cases hread : d.mayRead with
      | false => simp [LineState.step, LineState.stepPipeline, hread] at h
      | true => exact .input path hread (completes_of_run t (by
          simpa [LineState.step, LineState.stepPipeline, hread] using h))
  | [.writeTo] | .writeTo :: .pipe :: t | .writeTo :: .writeTo :: t
  | .writeTo :: .readFrom :: t =>
      cases hsealed : d.sealed <;>
        simp [LineState.step, LineState.stepPipeline, LineState.finish, hsealed] at h
  | [.readFrom] | .readFrom :: .pipe :: t | .readFrom :: .writeTo :: t
  | .readFrom :: .readFrom :: t =>
      cases hread : d.mayRead <;>
        simp [LineState.step, LineState.stepPipeline, LineState.finish, hread] at h
termination_by t.length

/-- Items and segments that may follow a draft whose program has been read. -/
structure MayFollow (d : Draft) (items : List Item) (rest : PipedSegments) : Prop where
  inputs : (items.filterMap Item.input?).length ≤ d.mayRead.toNat
  outputs : (items.filterMap Item.output?).length ≤ (!d.sealed).toNat
  last : rest ≠ [] → items.filterMap Item.output? = [] ∧ d.sealed = false
  rest : rest.Legal

theorem MayFollow.argument {d : Draft} {w : String} {items : List Item} {rest : PipedSegments}
    (h : MayFollow { d with current := d.current.addArgument w } items rest) :
    d.MayFollow (.argument w :: items) rest := by
  refine ⟨?_, ?_, ?_, h.rest⟩
  · simpa [Item.input?, List.filterMap_cons] using h.inputs
  · simpa [Item.output?, List.filterMap_cons] using h.outputs
  · simpa [Item.output?, List.filterMap_cons] using h.last

/-- Behind an output file neither another one nor a pipe may follow. -/
theorem MayFollow.output {d : Draft} {path : String} {items : List Item} {rest : PipedSegments}
    (hsealed : d.sealed = false)
    (h : MayFollow { d with output := some path, sealed := true } items rest) :
    d.MayFollow (.output path :: items) rest := by
  have hnone : items.filterMap Item.output? = [] := by simpa using h.outputs
  have hend : rest = [] := by simpa using h.last
  refine ⟨?_, ?_, ?_, h.rest⟩
  · simpa [Item.input?, List.filterMap_cons] using h.inputs
  · simp [Item.output?, hnone, hsealed]
  · exact fun hne ↦ (hne hend).elim

theorem MayFollow.input {d : Draft} {path : String} {items : List Item} {rest : PipedSegments}
    (hread : d.mayRead = true)
    (h : MayFollow { d with input := some path, mayRead := false } items rest) :
    d.MayFollow (.input path :: items) rest := by
  have hnone : items.filterMap Item.input? = [] := by simpa using h.inputs
  refine ⟨?_, ?_, ?_, h.rest⟩
  · simp [Item.input?, hnone, hread]
  · simpa [Item.output?, List.filterMap_cons] using h.outputs
  · simpa [Item.output?, List.filterMap_cons] using h.last

/-- The tokens that complete a draft are items and segments that may follow it;
behind a pipe they are more pipes, unless a `>` has been read since, and segments. -/
theorem Completes.split {closed : Growable Stage} {d : Draft} {t : List Token} {p : Pipeline}
    (h : d.Completes closed t p) :
    (d.awaitsProgram = false → ∃ (items : List Item) (rest : PipedSegments),
      t = items.flatMap Item.tokens ++ rest.tokens ∧ d.MayFollow items rest) ∧
    (d.awaitsProgram = true → d.mayRead = false →
      ∃ (extra : Nat) (s : Segment) (rest : PipedSegments),
        t = List.replicate extra .pipe ++ s.tokens ++ rest.tokens ∧
        PipedSegments.Legal ((extra, s) :: rest) ∧
        (d.sealed = true → extra = 0 ∧ s.early = none)) := by
  induction h with
  | done hawaits =>
      refine ⟨fun _ ↦ ⟨[], [], by simp, by simp, by simp, by simp, PipedSegments.legal_nil⟩, ?_⟩
      simp [hawaits]
  | @program closed d t p w hawaits _ ih =>
      refine ⟨by simp [hawaits], fun _ hread ↦ ?_⟩
      obtain ⟨items, rest, rfl, hfollow⟩ := ih.1 rfl
      have hnone : items.filterMap Item.input? = [] := by simpa [hread] using hfollow.inputs
      refine ⟨0, ⟨none, w, items⟩, rest, by simp [Segment.tokens, Segment.earlyTokens], ?_,
        fun _ ↦ ⟨rfl, rfl⟩⟩
      exact PipedSegments.legal_cons_iff.2
        ⟨hnone, hfollow.outputs, fun hne ↦ (hfollow.last hne).1, hfollow.rest⟩
  | @argument closed d t p w hawaits _ ih =>
      refine ⟨fun _ ↦ ?_, by simp [hawaits]⟩
      obtain ⟨items, rest, rfl, hfollow⟩ := ih.1 hawaits
      exact ⟨.argument w :: items, rest, by simp [Item.tokens], hfollow.argument⟩
  | @pipe closed d t p hsealed _ ih =>
      obtain ⟨extra, s, rest, rfl, hlegal, -⟩ := ih.2 rfl rfl
      constructor
      · intro _
        exact ⟨[], (extra, s) :: rest, by simp [PipedSegments.tokens_cons, List.replicate_succ],
          by simp, by simp, by simp [hsealed], hlegal⟩
      · intro _ _
        refine ⟨extra + 1, s, rest, by simp [List.replicate_succ], ?_, by simp [hsealed]⟩
        exact PipedSegments.legal_cons_iff.2 (PipedSegments.legal_cons_iff.1 hlegal)
  | @output closed d t p path hsealed _ ih =>
      constructor
      · intro hawaits
        obtain ⟨items, rest, rfl, hfollow⟩ := ih.1 hawaits
        exact ⟨.output path :: items, rest, by simp [Item.tokens], hfollow.output hsealed⟩
      · intro hawaits hread
        obtain ⟨extra, s, rest, rfl, hlegal, hfirst⟩ := ih.2 hawaits hread
        obtain ⟨rfl, hearly⟩ := hfirst rfl
        obtain ⟨hinputs, houtputs, hlast, hrest⟩ := PipedSegments.legal_cons_iff.1 hlegal
        refine ⟨0, ⟨some path, s.program, s.items⟩, rest, ?_, ?_, by simp [hsealed]⟩
        · simp [Segment.tokens, Segment.earlyTokens, hearly]
        · exact PipedSegments.legal_cons_iff.2 ⟨hinputs, houtputs, hlast, hrest⟩
  | @input closed d t p path hread _ ih =>
      refine ⟨fun hawaits ↦ ?_, by simp [hread]⟩
      obtain ⟨items, rest, rfl, hfollow⟩ := ih.1 hawaits
      exact ⟨.input path :: items, rest, by simp [Item.tokens], hfollow.input hread⟩

end Draft

/-- Every line that is read as a pipeline has a legal form. -/
theorem LineForm.exists_of_run {closed : Growable Stage} {t : List Token} {p : Pipeline}
    (h : (LineState.start closed).atNewline t = .run p) :
    t ≠ [.word "exit"] ∧ ∃ f : LineForm, f.tokens = t ∧ f.Legal ∧ f.first.program ≠ "cd" := by
  obtain ⟨hexit, w, u, rfl, hcd, hrun⟩ := LineState.exists_program_of_run h
  obtain ⟨items, rest, rfl, hfollow⟩ := (Draft.completes_of_run u hrun).split.1 rfl
  refine ⟨hexit, ⟨⟨none, w, items⟩, rest⟩, ?_, ?_, hcd⟩
  · simp [LineForm.tokens, Segment.tokens, Segment.earlyTokens]
  · exact LineForm.legal_iff.2
      ⟨rfl, hfollow.inputs, hfollow.outputs, fun hne ↦ (hfollow.last hne).1, hfollow.rest⟩

/-- A pipeline that has been read is what any legal form of its line means. -/
theorem LineForm.eq_of_run {closed : Growable Stage} {t : List Token} {p : Pipeline}
    {f : LineForm} (h : (LineState.start closed).atNewline t = .run p) (htokens : f.tokens = t)
    (hlegal : f.Legal) :
    p.stages.toList.map Stage.args = closed.toList.map Stage.args ++ f.args ∧
      p.input = f.input ∧ p.output = f.output := by
  obtain ⟨hexit, w, u, rfl, hcd, -⟩ := LineState.exists_program_of_run h
  have hprogram : f.first.program = w := by
    have := (LineForm.legal_iff.1 hlegal).1
    simp [LineForm.tokens, Segment.tokens, Segment.earlyTokens, this] at htokens
    exact htokens.1
  obtain ⟨q, hrun, hq⟩ := LineForm.exists_run closed hlegal (hprogram ▸ hcd) (htokens ▸ hexit)
  rw [htokens, h] at hrun
  cases hrun
  exact hq

/-- A line is read as a pipeline exactly when it has a legal form, does not begin
with `cd` and is not `exit` alone.  The pipeline is what the form means, and has
one stage more than the line has runs of pipes. -/
theorem read_run_iff_legal_form (r : CommandReader) (t : List Token) (rest : List Symbol) :
    ((∃ p, (r.read (Symbol.ofLine t ++ rest)).1 = .run p) ↔
      t ≠ [.word "exit"] ∧ ∃ f : LineForm, f.tokens = t ∧ f.Legal ∧ f.first.program ≠ "cd") ∧
    ∀ p, (r.read (Symbol.ofLine t ++ rest)).1 = .run p →
      p.stages.size = pipeRuns t + 1 ∧ (∀ s ∈ p.stages.toList, s.args ≠ []) ∧
      ∀ f : LineForm, f.tokens = t → f.Legal →
        p.stages.toList.map Stage.args = f.args ∧ p.input = f.input ∧ p.output = f.output := by
  rw [CommandReader.read_ofLine_eq_atNewline]
  refine ⟨⟨?_, ?_⟩, ?_⟩
  · rintro ⟨p, h⟩
    exact LineForm.exists_of_run h
  · rintro ⟨hexit, f, rfl, hlegal, hcd⟩
    obtain ⟨p, h, -⟩ := LineForm.exists_run r.buffer.clear hlegal hcd hexit
    exact ⟨p, h⟩
  · intro p h
    have hmeans := fun f : LineForm ↦ LineForm.eq_of_run (f := f) h
    obtain ⟨-, f, rfl, hlegal, -⟩ := LineForm.exists_of_run h
    have hargs := (hmeans f rfl hlegal).1
    refine ⟨?_, ?_, fun f htokens hf ↦ by simpa using hmeans f htokens hf⟩
    · rw [← LineForm.length_args_eq_pipeRuns, ← Growable.length_toList]
      simpa using congrArg List.length hargs
    · intro s hs
      have hmem : s.args ∈ f.args := by
        have := List.mem_map_of_mem (f := Stage.args) hs
        rwa [hargs] at this
      exact LineForm.ne_nil_of_mem_args hmem

/-- `sort < in | | uniq -c > out x` has two stages. -/
theorem read_run_two_stages :
    ∃ p, (CommandReader.new.read (Symbol.ofLine
        [.word "sort", .readFrom, .word "in", .pipe, .pipe, .word "uniq", .word "-c", .writeTo,
          .word "out", .word "x"] ++ [])).1 = .run p ∧
      p.stages.size = 2 ∧ p.stages.toList.map Stage.args = [["sort"], ["uniq", "-c", "x"]] ∧
      p.input = some "in" ∧ p.output = some "out" := by
  let f : LineForm := ⟨⟨none, "sort", [.input "in"]⟩,
    [(1, ⟨none, "uniq", [.argument "-c", .output "out", .argument "x"]⟩)]⟩
  have hlegal : f.Legal := ⟨rfl, by decide, by decide, by decide, by decide⟩
  obtain ⟨hiff, hmeans⟩ := read_run_iff_legal_form .new f.tokens []
  obtain ⟨p, h⟩ := hiff.2 ⟨by decide, f, rfl, hlegal, by decide⟩
  obtain ⟨hsize, -, hform⟩ := hmeans p h
  exact ⟨p, h, hsize, hform f rfl hlegal⟩

end PipeShell

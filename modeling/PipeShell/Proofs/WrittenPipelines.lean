import PipeShell.Proofs.PipelineLines
import PipeShell.Proofs.SpelledLines

/-!
# Pipelines written as lines

Any text is a word when it is written in quotes: double ones around every `'` and single
ones around the rest, piece by piece, with nothing between the quotes when there is nothing
to write.  A pipeline is then written stage by stage, the input file behind the first stage
and the output file behind the last one.  Reading such a line gives the pipeline back, with
the exception of the two commands that are no pipelines.
-/

namespace PipeShell

/-! ## Texts in quotes -/

/-- The piece is in quotes, in double ones exactly when they hold `'`. -/
def Piece.Guarded : Piece → Prop
  | .plain _ _ => False
  | .quoted q inside _ => ∀ c ∈ inside, c = '\'' ↔ q = .double

/-- One or more pieces in quotes that together have this text as their value. -/
structure Quoting (text : String) where
  pieces : List Piece
  ne_nil : pieces ≠ []
  value : String.ofList (pieces.flatMap Piece.value) = text
  guarded : ∀ p ∈ pieces, p.Guarded

namespace Quoting

/-- The quotes for one character. -/
def quoteOf (c : Char) : Quote :=
  if c = '\'' then .double else .single

theorem mark_quoteOf_ne (c : Char) : (quoteOf c).mark ≠ c := by
  unfold quoteOf
  split
  case isTrue h => rw [h]; decide
  case isFalse h => exact Ne.symm h

def pieceOf (c : Char) : Piece :=
  .quoted (quoteOf c) [c] (by simpa using mark_quoteOf_ne c)

theorem guarded_pieceOf (c : Char) : (pieceOf c).Guarded := by
  intro a ha
  obtain rfl : a = c := by simpa using ha
  unfold quoteOf
  split <;> simp_all

theorem flatMap_value_pieceOf (l : List Char) : (l.map pieceOf).flatMap Piece.value = l := by
  induction l with
  | nil => rfl
  | cons c l ih => rw [List.map_cons, List.flatMap_cons, ih]; rfl

/-- Every character in quotes of its own. -/
def byCharacter (text : String) : Quoting text :=
  if h : text.toList = [] then
    { pieces := [.quoted .single [] List.not_mem_nil]
      ne_nil := List.cons_ne_nil _ _
      value := by rw [← String.ofList_toList (s := text), h]; rfl
      guarded := by simp [Piece.Guarded] }
  else
    { pieces := text.toList.map pieceOf
      ne_nil := mt List.map_eq_nil_iff.1 h
      value := by rw [flatMap_value_pieceOf, String.ofList_toList]
      guarded := by
        intro p hp
        obtain ⟨c, -, rfl⟩ := List.mem_map.1 hp
        exact guarded_pieceOf c }

instance (text : String) : Inhabited (Quoting text) := ⟨byCharacter text⟩

end Quoting

/-! ## Rows of tokens -/

/-- How a token is written when its words are quoted in some way. -/
def Token.element (quote : ∀ text, Quoting text) : Token → Element
  | .word text => .word (quote text).pieces (quote text).ne_nil
  | .pipe => .operator .pipe
  | .readFrom => .operator .readFrom
  | .writeTo => .operator .writeTo

theorem Token.token?_element (quote : ∀ text, Quoting text) (t : Token) :
    (t.element quote).token? = some t := by
  cases t with
  | word text => simp [Token.element, Element.token?, (quote text).value]
  | _ => rfl

namespace Spelling

/-- A space between two elements. -/
def space : Element :=
  .blank ' ' (.inl rfl)

theorem isChain_intersperse_space (es : List Element) :
    (es.intersperse space).IsChain Element.Apart := by
  have hspace : ∀ e, Element.Apart e space ∧ Element.Apart space e := by
    intro e
    constructor
    · rintro ⟨-, h⟩
      cases h
    · rintro ⟨h, -⟩
      cases h
  induction es with
  | nil => exact .nil
  | cons e es ih =>
      cases es with
      | nil => exact .singleton e
      | cons e' es =>
          rw [List.intersperse_cons_cons]
          refine .cons_cons (hspace e).1 (ih.cons ?_)
          intro a _
          exact (hspace a).2

theorem filterMap_token?_intersperse_space (es : List Element) :
    (es.intersperse space).filterMap Element.token? = es.filterMap Element.token? := by
  induction es with
  | nil => rfl
  | cons e es ih =>
      cases es with
      | nil => rfl
      | cons e' es =>
          have hspace : space.token? = none := rfl
          rw [List.intersperse_cons_cons, List.filterMap_cons, List.filterMap_cons_none hspace, ih,
            ← List.filterMap_cons]

/-- Tokens written one after the other with a space between them. -/
def ofTokens (quote : ∀ text, Quoting text) (t : List Token) : Spelling :=
  ⟨(t.map (Token.element quote)).intersperse space, isChain_intersperse_space _⟩

theorem tokens_ofTokens (quote : ∀ text, Quoting text) (t : List Token) :
    (ofTokens quote t).tokens = t := by
  have helement : Element.token? ∘ Token.element quote = some := by
    funext a
    exact a.token?_element quote
  rw [ofTokens, tokens, filterMap_token?_intersperse_space, List.filterMap_map, helement,
    List.filterMap_some]

end Spelling

/-! ## Written pipelines -/

/-- The program of a stage and its arguments, each a word. -/
def Stage.tokens (s : Stage) : List Token :=
  s.args.map .word

namespace Pipeline

/-- The tokens of a `<` and its file. -/
def inputTokens : Option String → List Token
  | none => []
  | some path => [.readFrom, .word path]

/-- The tokens of a `>` and its file. -/
def outputTokens : Option String → List Token
  | none => []
  | some path => [.writeTo, .word path]

/-- The stages behind the first one, with a pipe in front of each. -/
def pipedTokens (stages : List Stage) : List Token :=
  stages.flatMap fun s ↦ .pipe :: s.tokens

/-- A pipeline, token by token. -/
def tokens (p : Pipeline) : List Token :=
  match p.stages.toList with
  | [] => []
  | first :: rest =>
      first.tokens ++ inputTokens p.input ++ pipedTokens rest ++ outputTokens p.output

/-- The line of a pipeline. -/
def written (quote : ∀ text, Quoting text) (p : Pipeline) : String :=
  String.ofList (Spelling.ofTokens quote p.tokens).chars

/-- The pipeline is not empty, and its line is neither a `cd` nor a single `exit`. -/
structure Writable (p : Pipeline) : Prop where
  ne_nil : p.stages.toList ≠ []
  ne_cd : ∀ first ∈ p.stages.toList.head?, first.program ≠ "cd"
  ne_exit : ¬ (p.stages.toList = [.ofProgram "exit"] ∧ p.input = none ∧ p.output = none)

theorem ofLine_written (quote : ∀ text, Quoting text) (p : Pipeline) :
    Token.ofLine (p.written quote) = .ok p.tokens := by
  have hchars : (Spelling.ofTokens quote p.tokens).chars = (p.written quote).toList := by
    rw [written, String.toList_ofList]
  rw [Token.ofLine_of_chars hchars, Spelling.tokens_ofTokens]

/-- A single stage with awkward arguments. -/
example : (Pipeline.mk (.ofList [⟨"", #["it's", "|"]⟩]) none (some "a b")).written
    (fun _ ↦ default) = "'' 'i''t'\"'\"'s' '|' > 'a'' ''b'" := by
  decide

end Pipeline

theorem Stage.args_injective {s s' : Stage} (h : s.args = s'.args) : s = s' := by
  obtain ⟨program, arguments⟩ := s
  obtain ⟨program', arguments'⟩ := s'
  obtain ⟨rfl, harguments⟩ := List.cons.inj h
  obtain rfl : arguments = arguments' := Array.toList_inj.1 harguments
  rfl

/-- The arguments of a stage as items of its segment. -/
def Stage.items (s : Stage) : List Item :=
  s.arguments.toList.map .argument

namespace Stage

theorem tokens_eq_cons (s : Stage) :
    s.tokens = .word s.program :: s.items.flatMap Item.tokens := by
  have hitems : s.items.flatMap Item.tokens = s.arguments.toList.map .word := by
    rw [items, List.flatMap_map, ← List.flatMap_singleton' (s.arguments.toList.map Token.word),
      List.flatMap_map]
    rfl
  rw [tokens, args, List.map_cons, hitems]

theorem argument?_items (s : Stage) : s.items.filterMap Item.argument? = s.arguments.toList := by
  rw [items, List.filterMap_map]
  exact List.filterMap_some

theorem input?_items (s : Stage) : s.items.filterMap Item.input? = [] := by
  simp [items, Item.input?]

theorem output?_items (s : Stage) : s.items.filterMap Item.output? = [] := by
  simp [items, Item.output?]

end Stage

/-! ## Reading a written pipeline -/

/-- These stages and this input file have been read, and a pipe, a `>` or the end of the
line may follow. -/
structure Gathered (closed : Growable Stage) (d : Draft) (stages : List Stage)
    (input : Option String) : Prop where
  stages : closed.toList ++ [d.current] = stages
  input : d.input = input
  output : d.output = none
  awaitsProgram : d.awaitsProgram = false
  sealed : d.sealed = false

namespace Gathered

open LineState (step atNewline)

variable {closed : Growable Stage} {d : Draft} {stages : List Stage} {input : Option String}

theorem exists_first (s : Stage) (input : Option String) (hclosed : closed.toList = []) :
    ∃ d, (s.items.flatMap Item.tokens ++ Pipeline.inputTokens input).foldl step
        ⟨closed, .pipeline (.ofProgram s.program)⟩ = ⟨closed, .pipeline d⟩ ∧
      Gathered closed d [s] input := by
  let items := s.items ++ input.toList.map .input
  have htokens : s.items.flatMap Item.tokens ++ Pipeline.inputTokens input =
      items.flatMap Item.tokens := by
    cases input <;> simp [items, Pipeline.inputTokens, Item.tokens]
  have hinputs : items.filterMap Item.input? = input.toList := by
    cases input <;> simp [items, s.input?_items, Item.input?]
  have houtputs : items.filterMap Item.output? = [] := by
    cases input <;> simp [items, s.output?_items, Item.output?]
  have harguments : items.filterMap Item.argument? = s.arguments.toList := by
    cases input <;> simp [items, s.argument?_items, Item.argument?]
  refine ⟨(Draft.ofProgram s.program).withItems items, ?_, ?_, ?_, ?_, ?_, ?_⟩
  · rw [htokens]
    apply LineState.foldl_items
    · rfl
    · rw [hinputs]
      cases input <;> simp [Draft.ofProgram]
    · simp [houtputs]
  · have hcurrent : ((Draft.ofProgram s.program).withItems items).current = s := by
      apply Stage.args_injective
      rw [Draft.args_withItems, harguments]
      rfl
    rw [hclosed, hcurrent, List.nil_append]
  · rw [Draft.input_withItems, hinputs]
    cases input <;> rfl
  · rw [Draft.output_withItems, houtputs]
    rfl
  · rw [Draft.awaitsProgram_withItems]
    rfl
  · rw [Draft.sealed_withItems houtputs]
    rfl

/-- A pipe and a stage behind it are one more stage. -/
theorem exists_push (h : Gathered closed d stages input) (s : Stage) :
    ∃ d', (Token.pipe :: s.tokens).foldl step ⟨closed, .pipeline d⟩ =
        ⟨closed.push d.current, .pipeline d'⟩ ∧
      Gathered (closed.push d.current) d' (stages ++ [s]) input := by
  let segment : Segment := ⟨none, s.program, s.items⟩
  have htokens : Token.pipe :: s.tokens = List.replicate (0 + 1) .pipe ++ segment.tokens := by
    rw [s.tokens_eq_cons]
    rfl
  refine ⟨d.withSegment segment, ?_, ?_, ?_, ?_, ?_, ?_⟩
  · rw [htokens]
    apply LineState.foldl_segment
    · exact h.sealed
    · exact s.input?_items
    · simp [segment, Segment.outputs, s.output?_items]
  · have hcurrent : (d.withSegment segment).current = s := by
      apply Stage.args_injective
      rw [Draft.withSegment, Draft.args_withItems, s.argument?_items]
      rfl
    rw [hcurrent, Growable.toList_push, h.stages]
  · rw [Draft.withSegment, Draft.input_withItems, s.input?_items, h.input]
    cases input <;> rfl
  · rw [Draft.withSegment, Draft.output_withItems, s.output?_items, h.output]
    rfl
  · rw [Draft.withSegment, Draft.awaitsProgram_withItems]
  · rw [Draft.withSegment, Draft.sealed_withItems s.output?_items]

/-- What is written of the stages behind the first one is read stage by stage. -/
theorem exists_piped (h : Gathered closed d stages input) (rest : List Stage) :
    ∃ closed' d', (Pipeline.pipedTokens rest).foldl step ⟨closed, .pipeline d⟩ =
        ⟨closed', .pipeline d'⟩ ∧
      Gathered closed' d' (stages ++ rest) input := by
  induction rest generalizing closed d stages with
  | nil => exact ⟨closed, d, rfl, by rwa [List.append_nil]⟩
  | cons s rest ih =>
      obtain ⟨d', hstage, hpush⟩ := h.exists_push s
      obtain ⟨closed'', d'', hrest, hall⟩ := ih hpush
      refine ⟨closed'', d'', ?_, ?_⟩
      · rw [Pipeline.pipedTokens, List.flatMap_cons, List.foldl_append, hstage]
        exact hrest
      · rwa [List.append_assoc, List.singleton_append] at hall

/-- The output file comes last. -/
theorem exists_run (h : Gathered closed d stages input) (output : Option String) :
    ∃ q, atNewline ⟨closed, .pipeline d⟩ (Pipeline.outputTokens output) = .run q ∧
      q.stages.toList = stages ∧ q.input = input ∧ q.output = output := by
  cases output with
  | none =>
      refine ⟨⟨closed.push d.current, d.input, d.output⟩, ?_, ?_, h.input, h.output⟩
      · simp [Pipeline.outputTokens, LineState.finish, h.awaitsProgram]
      · rw [Growable.toList_push, h.stages]
  | some path =>
      refine ⟨⟨closed.push d.current, d.input, some path⟩, ?_, ?_, h.input, rfl⟩
      · simp [Pipeline.outputTokens, step, LineState.stepPipeline, LineState.finish, h.sealed,
          h.awaitsProgram]
      · rw [Growable.toList_push, h.stages]

end Gathered

namespace Pipeline

variable {p : Pipeline} {closed : Growable Stage}

theorem tokens_eq_cons {first : Stage} {rest : List Stage} (h : p.stages.toList = first :: rest) :
    p.tokens = .word first.program :: (first.items.flatMap Item.tokens ++ inputTokens p.input ++
      pipedTokens rest ++ outputTokens p.output) := by
  rw [tokens, h]
  simp only [first.tokens_eq_cons, List.cons_append]

/-- Only the stage `exit` is written as the word `exit` alone. -/
theorem eq_exit_of_tokens {first : Stage} {rest : List Stage} (h : p.stages.toList = first :: rest)
    (hexit : p.tokens = [.word "exit"]) :
    p.stages.toList = [.ofProgram "exit"] ∧ p.input = none ∧ p.output = none := by
  rw [tokens_eq_cons h] at hexit
  obtain ⟨hprogram, hnil⟩ := List.cons.inj hexit
  obtain ⟨⟨⟨hitems, hinput⟩, hpiped⟩, houtput⟩ := by
    simpa only [List.append_eq_nil_iff] using hnil
  have hfirst : first = .ofProgram "exit" := by
    apply Stage.args_injective
    have htokens := first.tokens_eq_cons
    rw [hitems, hprogram] at htokens
    exact List.map_injective_iff.2 (fun _ _ ↦ Token.word.inj) htokens
  have hrest : rest = [] := by
    cases rest with
    | nil => rfl
    | cons s rest => cases hpiped
  refine ⟨by rw [h, hfirst, hrest], ?_, ?_⟩
  · cases hp : p.input with
    | none => rfl
    | some path => rw [hp] at hinput; cases hinput
  · cases hp : p.output with
    | none => rfl
    | some path => rw [hp] at houtput; cases houtput

theorem Writable.exists_run (h : p.Writable) (hclosed : closed.toList = []) :
    ∃ q, (LineState.start closed).atNewline p.tokens = .run q ∧
      q.stages.toList = p.stages.toList ∧ q.input = p.input ∧ q.output = p.output := by
  obtain ⟨first, rest, hstages⟩ := List.exists_cons_of_ne_nil h.ne_nil
  have htokens := tokens_eq_cons hstages
  have hcd : first.program ≠ "cd" := h.ne_cd first (by rw [hstages]; rfl)
  have hexit : p.tokens ≠ [.word "exit"] := fun heq ↦ h.ne_exit (eq_exit_of_tokens hstages heq)
  obtain ⟨d, hfirst, hgathered⟩ := Gathered.exists_first first p.input hclosed
  obtain ⟨closed', d', hpiped, hall⟩ := hgathered.exists_piped rest
  rw [htokens] at hexit ⊢
  rw [LineState.atNewline_start_word hcd hexit, LineState.atNewline_append,
    List.foldl_append, hfirst, hpiped, hstages]
  exact hall.exists_run p.output

theorem Writable.of_run {q : Pipeline}
    (hrun : (LineState.start closed).atNewline p.tokens = .run q) : p.Writable := by
  obtain ⟨hexit, w, u, htokens, hcd, -⟩ := LineState.exists_program_of_run hrun
  refine ⟨?_, ?_, ?_⟩
  · intro hnil
    rw [tokens, hnil] at htokens
    cases htokens
  · intro first hfirst
    obtain ⟨rest, hstages⟩ := List.head?_eq_some_iff.1 hfirst
    rw [tokens_eq_cons hstages] at htokens
    have hw : first.program = w := Token.word.inj (List.cons.inj htokens).1
    rwa [hw]
  · rintro ⟨hstages, hinput, houtput⟩
    apply hexit
    rw [tokens, hstages, hinput, houtput]
    rfl

end Pipeline

/-- The line of a pipeline has the tokens of the pipeline, whatever texts it is made of
and however they are put in quotes.  Reading these tokens gives a pipeline with the same
stages and files, for every pipeline but the empty one, those that begin with `cd`, and a
single `exit`. -/
theorem read_written_iff (quote : ∀ text, Quoting text) (r : CommandReader) (p : Pipeline)
    (rest : List Symbol) :
    Token.ofLine (p.written quote) = .ok p.tokens ∧
      ((∃ q, (r.read (Symbol.ofLine p.tokens ++ rest)).1 = .run q ∧
          q.stages.toList = p.stages.toList ∧ q.input = p.input ∧ q.output = p.output) ↔
        p.Writable) := by
  refine ⟨p.ofLine_written quote, ?_⟩
  rw [CommandReader.read_ofLine_eq_atNewline]
  constructor
  · rintro ⟨q, hrun, -⟩
    exact Pipeline.Writable.of_run hrun
  · intro h
    exact h.exists_run rfl

end PipeShell

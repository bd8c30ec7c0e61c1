import PipeShell.Proofs.PipelineLines

/-!
# Output redirections of accepted lines

A `>` behind a program seals its stage: nothing but words and a `<` may follow on
the line.  A `>` directly behind a pipe does not, because the program behind it
opens a new stage.  So an accepted line has its only `>` in its last stage
exactly when no `>` directly behind a pipe is followed by another pipe or `>`.
In either case the pipeline writes to the file of the last one.
-/

namespace PipeShell

/-- There is at most one `>`, and no pipe behind it. -/
structure OutputAtEnd (t : List Token) : Prop where
  unique : t.count .writeTo ≤ 1
  last : ∀ u v, t = u ++ .writeTo :: v → .pipe ∉ v

/-- The words directly behind a `>`, in order. -/
def outputFiles : List Token → List String
  | .writeTo :: .word path :: rest => path :: outputFiles rest
  | _ :: rest => outputFiles rest
  | [] => []

@[simp] theorem outputFiles_word (w : String) (rest : List Token) :
    outputFiles (.word w :: rest) = outputFiles rest := by
  simp [outputFiles]

@[simp] theorem outputFiles_readFrom (rest : List Token) :
    outputFiles (.readFrom :: rest) = outputFiles rest := by
  simp [outputFiles]

@[simp] theorem outputFiles_pipe (rest : List Token) :
    outputFiles (.pipe :: rest) = outputFiles rest := by
  simp [outputFiles]

@[simp] theorem outputFiles_writeTo_word (path : String) (rest : List Token) :
    outputFiles (.writeTo :: .word path :: rest) = path :: outputFiles rest := by
  simp [outputFiles]

theorem outputFiles_items (items : List Item) (rest : List Token) :
    outputFiles (items.flatMap Item.tokens ++ rest) =
      items.filterMap Item.output? ++ outputFiles rest := by
  induction items with
  | nil => rfl
  | cons item items ih =>
      cases item <;> simp [Item.tokens, Item.output?, List.filterMap_cons, ih]

theorem outputFiles_pipes (n : Nat) (rest : List Token) :
    outputFiles (List.replicate n .pipe ++ rest) = outputFiles rest := by
  induction n with
  | zero => rfl
  | succ n ih => simpa [List.replicate_succ] using ih

theorem Segment.outputFiles_tokens (s : Segment) (rest : List Token) :
    outputFiles (s.tokens ++ rest) = s.allOutputs ++ outputFiles rest := by
  cases h : s.early <;>
    simp [Segment.tokens, earlyTokens, h, outputFiles_items, allOutputs, outputs]

theorem PipedSegments.outputFiles_tokens (rest : PipedSegments) :
    outputFiles rest.tokens = rest.segments.flatMap Segment.allOutputs := by
  induction rest with
  | nil => rfl
  | cons piped rest ih =>
      rw [tokens_cons, List.append_assoc, outputFiles_pipes, Segment.outputFiles_tokens, ih,
        segments_cons, List.flatMap_cons]

/-- The files that a form writes to are those of its tokens. -/
theorem LineForm.outputFiles_tokens (f : LineForm) :
    outputFiles f.tokens = f.segments.flatMap Segment.allOutputs := by
  rw [LineForm.tokens, Segment.outputFiles_tokens, PipedSegments.outputFiles_tokens]
  rfl

/-- What is left of a list behind its first value ends as the list does. -/
theorem forall_ne_concat_of_cons {α : Type u} {a b : α} {l : List α}
    (h : ∀ l', a :: l ≠ l' ++ [b]) : ∀ l', l ≠ l' ++ [b] := by
  rintro l' rfl
  exact h (a :: l') rfl

namespace Draft

/-- Behind the program of a sealed stage there is neither a pipe nor a `>`. -/
theorem Completes.notMem_of_sealed {closed : Growable Stage} {d : Draft} {t : List Token}
    {p : Pipeline} (h : d.Completes closed t p) (hawaits : d.awaitsProgram = false)
    (hsealed : d.sealed = true) : .pipe ∉ t ∧ .writeTo ∉ t := by
  obtain ⟨items, rest, rfl, hfollow⟩ := h.split.1 hawaits
  have hnone : items.filterMap Item.output? = [] := by simpa [hsealed] using hfollow.outputs
  obtain rfl : rest = [] := by simpa [hsealed] using hfollow.last
  have hitems : ∀ item ∈ items, .pipe ∉ item.tokens ∧ .writeTo ∉ item.tokens := by
    intro item hitem
    have := List.filterMap_eq_nil_iff.1 hnone item hitem
    cases item <;> simp_all [Item.tokens, Item.output?]
  constructor
  · simpa using fun item hitem ↦ (hitems item hitem).1
  · simpa using fun item hitem ↦ (hitems item hitem).2

/-- A `>` that does not stand directly behind a pipe is the last one and has no
pipe behind it.  In front of it, a draft that awaits its program without being
sealed has just read a pipe. -/
theorem Completes.notMem_behind_writeTo {closed : Growable Stage} {d : Draft} {t : List Token}
    {p : Pipeline} (h : d.Completes closed t p) {u v : List Token} (ht : u ++ .writeTo :: v = t)
    (hread : d.awaitsProgram = true → d.mayRead = false) (hpipe : ∀ u', u ≠ u' ++ [.pipe])
    (hstart : u = [] → d.awaitsProgram = false ∨ d.sealed = true) :
    .pipe ∉ v ∧ .writeTo ∉ v := by
  induction h generalizing u with
  | done _ => simp at ht
  | program w _ _ ih =>
      cases u with
      | nil => simp at ht
      | cons a u =>
          exact ih (List.cons.inj ht).2 (by simp) (forall_ne_concat_of_cons hpipe) (by simp)
  | argument w hawaits _ ih =>
      cases u with
      | nil => simp at ht
      | cons a u =>
          exact ih (List.cons.inj ht).2 hread (forall_ne_concat_of_cons hpipe)
            (fun _ ↦ .inl hawaits)
  | pipe _ _ ih =>
      cases u with
      | nil => simp at ht
      | cons a u =>
          refine ih (List.cons.inj ht).2 (by simp) (forall_ne_concat_of_cons hpipe) ?_
          rintro rfl
          exact (hpipe [] (by rw [(List.cons.inj ht).1]; rfl)).elim
  | @output closed d t p path hsealed h ih =>
      match u with
      | [] =>
          have hawaits : d.awaitsProgram = false := by simpa [hsealed] using hstart rfl
          obtain rfl : v = .word path :: t := (List.cons.inj ht).2
          simpa using h.notMem_of_sealed hawaits rfl
      | [a] => simp at ht
      | a :: b :: u =>
          exact ih (List.cons.inj (List.cons.inj ht).2).2 hread
            (forall_ne_concat_of_cons (forall_ne_concat_of_cons hpipe)) (by simp)
  | @input closed d t p path hmay _ ih =>
      have hawaits : d.awaitsProgram = false := by
        cases hd : d.awaitsProgram
        · rfl
        · simp [hread hd] at hmay
      match u with
      | [] | [a] => simp at ht
      | a :: b :: u =>
          exact ih (List.cons.inj (List.cons.inj ht).2).2 (by simp)
            (forall_ne_concat_of_cons (forall_ne_concat_of_cons hpipe)) (fun _ ↦ .inl hawaits)

end Draft

/-- In a line that is read as a pipeline, a `>` has another `>` or a pipe behind it
only if it stands directly behind a pipe. -/
theorem notMem_behind_writeTo_of_run {closed : Growable Stage} {u v : List Token} {p : Pipeline}
    (h : (LineState.start closed).atNewline (u ++ .writeTo :: v) = .run p)
    (hpipe : ∀ u', u ≠ u' ++ [.pipe]) : .pipe ∉ v ∧ .writeTo ∉ v := by
  obtain ⟨-, w, u₁, htokens, -, hrun⟩ := LineState.exists_program_of_run h
  cases u with
  | nil => simp at htokens
  | cons a u =>
      exact (Draft.completes_of_run u₁ hrun).notMem_behind_writeTo (List.cons.inj htokens).2
        (by simp [Draft.ofProgram]) (forall_ne_concat_of_cons hpipe) (fun _ ↦ .inl rfl)

/-- At most one of some values is equal to `a` if none stands behind another. -/
theorem count_le_one_of_forall_notMem {α : Type u} [BEq α] [LawfulBEq α] {a : α} {l : List α}
    (h : ∀ u v, l = u ++ a :: v → a ∉ v) : l.count a ≤ 1 := by
  by_cases hmem : a ∈ l
  · obtain ⟨u, v, rfl, hu⟩ := List.eq_append_cons_of_mem hmem
    simp [List.count_eq_zero.2 hu, List.count_eq_zero.2 (h u v rfl)]
  · simp [List.count_eq_zero.2 hmem]

/-- The only `>` of an accepted line is in its last stage exactly when no `>`
directly behind a pipe is followed by another pipe or `>`. -/
theorem outputAtEnd_iff_of_read (r : CommandReader) (t : List Token) (rest : List Symbol)
    (p : Pipeline) (h : (r.read (Symbol.ofLine t ++ rest)).1 = .run p) :
    (OutputAtEnd t ↔ ∀ u v, t = u ++ .pipe :: .writeTo :: v → .pipe ∉ v ∧ .writeTo ∉ v) ∧
      p.output = (outputFiles t).getLast? := by
  rw [CommandReader.read_ofLine_eq_atNewline] at h
  refine ⟨⟨?_, ?_⟩, ?_⟩
  · rintro hend u v rfl
    refine ⟨hend.last (u ++ [.pipe]) v (by simp), ?_⟩
    have := hend.unique
    simp only [List.count_append, List.count_cons] at this
    exact List.count_eq_zero.1 (by simp at this; omega)
  · intro hpiped
    have hbehind : ∀ u v, t = u ++ .writeTo :: v → .pipe ∉ v ∧ .writeTo ∉ v := by
      intro u v htokens
      by_cases hu : ∃ u', u = u' ++ [.pipe]
      · obtain ⟨u', rfl⟩ := hu
        exact hpiped u' v (by simpa using htokens)
      · exact notMem_behind_writeTo_of_run (htokens ▸ h) (not_exists.1 hu)
    exact ⟨count_le_one_of_forall_notMem fun u v ht ↦ (hbehind u v ht).2,
      fun u v ht ↦ (hbehind u v ht).1⟩
  · obtain ⟨-, f, rfl, hlegal, -⟩ := LineForm.exists_of_run h
    rw [LineForm.outputFiles_tokens]
    exact (LineForm.eq_of_run h rfl hlegal).2.2

/-- In `a | > f b` the only `>` belongs to the last stage, though it stands in front
of its program. -/
theorem outputAtEnd_early :
    ∃ p, (CommandReader.new.read (Symbol.ofLine
        [.word "a", .pipe, .writeTo, .word "f", .word "b"] ++ [])).1 = .run p ∧
      OutputAtEnd [.word "a", .pipe, .writeTo, .word "f", .word "b"] ∧ p.output = some "f" := by
  have h := CommandReader.new.read_ofLine
    [.word "a", .pipe, .writeTo, .word "f", .word "b"] []
  obtain ⟨hiff, houtput⟩ := outputAtEnd_iff_of_read _ _ _ _ h
  refine ⟨_, h, hiff.2 ?_, houtput⟩
  rintro u v huv
  match u with
  | [] | [a, b] | [a, b, c] | [a, b, c, d] | a :: b :: c :: d :: e :: u => simp at huv
  | [a] =>
      obtain rfl : v = [.word "f", .word "b"] := by simpa using (List.cons.inj huv).2.symm
      simp

/-- In `a | > f b > g` the second `>` overwrites the file of the first, and in
`a | > f b | c` a `>` in front of `b` goes to the output of `c`. -/
theorem not_outputAtEnd_behind_pipe :
    (∃ p, (CommandReader.new.read (Symbol.ofLine
        [.word "a", .pipe, .writeTo, .word "f", .word "b", .writeTo, .word "g"] ++ [])).1 = .run p ∧
      p.output = some "g" ∧
      ¬ OutputAtEnd [.word "a", .pipe, .writeTo, .word "f", .word "b", .writeTo, .word "g"]) ∧
    ∃ p, (CommandReader.new.read (Symbol.ofLine
        [.word "a", .pipe, .writeTo, .word "f", .word "b", .pipe, .word "c"] ++ [])).1 = .run p ∧
      p.output = some "f" ∧
      ¬ OutputAtEnd [.word "a", .pipe, .writeTo, .word "f", .word "b", .pipe, .word "c"] := by
  constructor
  · refine ⟨_, CommandReader.new.read_ofLine _ [], rfl, fun h ↦ ?_⟩
    exact absurd h.unique (by decide)
  · refine ⟨_, CommandReader.new.read_ofLine _ [], rfl, fun h ↦ ?_⟩
    exact h.last [.word "a", .pipe] [.word "f", .word "b", .pipe, .word "c"] rfl (by simp)

end PipeShell

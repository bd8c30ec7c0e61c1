import PipeShell.Proofs.TokenByToken

/-!
# Reading stops where the line does

Every reading of a command asks its source for the symbols of one line and for no more,
whatever the line asks for and at whichever token it is turned down: what an error leaves
of its line is skipped, and nothing is where the error came with the end of the line.  On a
queue this is the shortest part at the front that ends a line, so the next reading begins
with the next line; a queue in which no line ends is taken whole.
-/

namespace PipeShell

namespace SymbolSource

variable {τ : Type u} [SymbolSource τ]

/-- The source gives these symbols, one at a time, and is then in the second state. -/
inductive Gives : τ → List Symbol → τ → Prop where
  | nil (s : τ) : Gives s [] s
  | cons {s s' s'' : τ} {x : Symbol} {l : List Symbol} (h : next s = (x, s'))
      (rest : Gives s' l s'') : Gives s (x :: l) s''

/-- A line that is taken has been given symbol by symbol, its end last. -/
theorem takeLine_gives (s : τ) :
    Gives s ((takeLine s).1.map .token ++ [.lineEnd (takeLine s).2.1]) (takeLine s).2.2 := by
  induction s using takeLine.induct with
  | case1 s t rest hnext ih =>
      rw [takeLine_of_token hnext]
      exact .cons hnext ih
  | case2 s e rest hnext =>
      rw [takeLine_of_lineEnd hnext]
      exact .cons hnext (.nil rest)

/-- What a queue gives as a line stands at its front, unless its end is that of the whole
queue. -/
theorem Gives.queue {t : List Token} {e : LineEnd} {q rest : List Symbol}
    (h : Gives q (t.map .token ++ [.lineEnd e]) rest) :
    q = t.map .token ++ .lineEnd e :: rest ∨ q = t.map .token ∧ rest = [] := by
  induction t generalizing q with
  | nil =>
      rcases h with _ | ⟨hnext, hrest⟩
      cases hrest
      cases q with
      | nil =>
          have hrest : [] = rest := (Prod.mk.inj hnext).2
          exact .inr ⟨rfl, hrest.symm⟩
      | cons x q =>
          obtain ⟨rfl, rfl⟩ := Prod.mk.inj hnext
          exact .inl rfl
  | cons a t ih =>
      rcases h with _ | ⟨hnext, hrest⟩
      cases q with
      | nil => cases (Prod.mk.inj hnext).1
      | cons x q =>
          obtain ⟨rfl, rfl⟩ := Prod.mk.inj hnext
          rcases ih hrest with hq | ⟨hq, hempty⟩
          · left
            rw [hq]
            rfl
          · right
            exact ⟨by rw [hq]; rfl, hempty⟩

end SymbolSource

/-! ## The first line of a queue -/

namespace Symbol

/-- The last symbol ends a line. -/
def Ended (l : List Symbol) : Prop :=
  ∃ e, l.getLast? = some (.lineEnd e)

/-- The shortest part at the front of a queue that ends a line; all of the queue if none
does. -/
def IsFirstLine (q line : List Symbol) : Prop :=
  line <+: q ∧ Ended line ∧ (∀ m, m <+: q → Ended m → line <+: m) ∨
    line = q ∧ ∀ m, m <+: q → ¬ Ended m

/-- A queue has only one first line. -/
theorem IsFirstLine.unique {q line line' : List Symbol} (h : IsFirstLine q line)
    (h' : IsFirstLine q line') : line = line' := by
  rcases h with ⟨hfront, hended, hshort⟩ | ⟨rfl, hnone⟩ <;>
    rcases h' with ⟨hfront', hended', hshort'⟩ | ⟨rfl, hnone'⟩
  · have hle : line <+: line' := hshort line' hfront' hended'
    have hge : line' <+: line := hshort' line hfront hended
    exact hle.eq_of_length_le hge.length_le
  · exact (hnone' line hfront hended).elim
  · exact (hnone line' hfront' hended').elim
  · rfl

theorem ended_line (t : List Token) (e : LineEnd) : Ended (t.map .token ++ [.lineEnd e]) :=
  ⟨e, List.getLast?_concat⟩

theorem not_ended_tokens (t : List Token) : ¬ Ended (t.map .token) := by
  rintro ⟨e, he⟩
  obtain ⟨a, -, ha⟩ := List.mem_map.1 (List.mem_of_getLast? he)
  cases ha

theorem isFirstLine_tokens (t : List Token) : IsFirstLine (t.map .token) (t.map .token) := by
  refine .inr ⟨rfl, ?_⟩
  intro m hm
  obtain ⟨n, -, rfl⟩ := (List.prefix_map_iff ..).1 hm
  exact not_ended_tokens n

theorem isFirstLine_append (t : List Token) (e : LineEnd) (rest : List Symbol) :
    IsFirstLine (t.map .token ++ .lineEnd e :: rest) (t.map .token ++ [.lineEnd e]) := by
  have hfront : t.map .token ++ .lineEnd e :: rest = (t.map .token ++ [.lineEnd e]) ++ rest := by
    rw [List.append_assoc, List.singleton_append]
  rw [hfront]
  refine .inl ⟨List.prefix_append _ _, ended_line t e, ?_⟩
  intro m hm hended
  -- Of two parts at the front one is shorter; a shorter one would hold tokens only.
  rcases List.prefix_or_prefix_of_prefix hm (List.prefix_append _ _) with hshort | hlong
  · rcases List.prefix_concat_iff.1 hshort with rfl | htokens
    · exact List.prefix_rfl
    · obtain ⟨n, -, rfl⟩ := (List.prefix_map_iff ..).1 htokens
      exact (not_ended_tokens n hended).elim
  · exact hlong

end Symbol

namespace CommandReader

variable {τ : Type u} [SymbolSource τ]

/-- A reading asks for one line, and its outcome depends on nothing else. -/
theorem read_gives (r : CommandReader) (s : τ) :
    ∃ t e, SymbolSource.Gives s (t.map .token ++ [.lineEnd e]) (r.read s).2.2 ∧
      (r.read s).1 = (LineState.ofTokens r.buffer.clear t).finish e := by
  refine ⟨(SymbolSource.takeLine s).1, (SymbolSource.takeLine s).2.1, ?_, ?_⟩
  · rw [read_rest]
    exact SymbolSource.takeLine_gives s
  · rw [read_command]

theorem read_eq_of_takeLine {s s' rest : τ} {t : List Token} {e : LineEnd}
    (h : SymbolSource.takeLine s = (t, e, rest)) {rest' : τ}
    (h' : SymbolSource.takeLine s' = (t, e, rest')) (r : CommandReader) :
    r.read s' = ((r.read s).1, (r.read s).2.1, rest') := by
  rw [read_eq_takeRest, read_eq_takeRest, LineState.takeRest, LineState.takeRest, h, h']

/-- A reading takes the first line of the queue, no more and no less, and what comes behind
a line that ends makes no difference to it. -/
theorem read_takes_first_line (r : CommandReader) (q : List Symbol) :
    ∃ line, Symbol.IsFirstLine q line ∧ line ++ (r.read q).2.2 = q ∧
      (Symbol.Ended line →
        ∀ rest, r.read (line ++ rest) = ((r.read q).1, (r.read q).2.1, rest)) := by
  obtain ⟨t, e, hgives, -⟩ := r.read_gives q
  generalize hbehind : (r.read q).2.2 = behind at hgives
  rcases hgives.queue with rfl | ⟨rfl, rfl⟩
  · refine ⟨t.map .token ++ [.lineEnd e], Symbol.isFirstLine_append t e behind, ?_, ?_⟩
    · rw [List.append_assoc, List.singleton_append]
    · intro _ rest
      rw [List.append_assoc, List.singleton_append]
      apply read_eq_of_takeLine
      · exact SymbolSource.takeLine_queue t e behind
      · exact SymbolSource.takeLine_queue t e rest
  · refine ⟨t.map .token, Symbol.isFirstLine_tokens t, List.append_nil _, ?_⟩
    intro hended
    exact (Symbol.not_ended_tokens t hended).elim

/-- A `>` without its file is turned down by the newline itself, and the line behind it is
still there. -/
theorem read_takes_first_line_refused :
    (CommandReader.new.read (Symbol.ofLine [.word "a", .writeTo] ++ [.token (.word "b")])).2.2 =
      [.token (.word "b")] := by
  obtain ⟨line, hfirst, -, hothers⟩ := read_takes_first_line .new
    (Symbol.ofLine [.word "a", .writeTo] ++ [.token (.word "b")])
  have hmarked : Symbol.ofLine [.word "a", .writeTo] = line :=
    (Symbol.isFirstLine_append [.word "a", .writeTo] .newline [.token (.word "b")]).unique hfirst
  rw [hmarked]
  exact congrArg (·.2.2) (hothers (hmarked ▸ ⟨.newline, rfl⟩) [.token (.word "b")])

end CommandReader

end PipeShell

import PipeShell.Proofs.SpelledLines

/-!
# Both sides of a separator

A blank or an operator outside quotes ends the word in front of it, and behind it the scan
goes on as at the beginning of a line.  So the tokens of a line are those of the two sides,
with the operator between them, and neither side has a say in what the other one means.  A
blank closes no quote, so a line with an open one is not saved by blanks at its end.
-/

namespace PipeShell

namespace Scan

variable {s : Scan} {c : Char}

/-- The scan with some tokens in front of its own. -/
def behind (s : Scan) (tokens : Array Token) : Scan :=
  ⟨tokens ++ s.tokens, s.reading⟩

theorem behind_start (tokens : Array Token) : start.behind tokens = ⟨tokens, .between⟩ := by
  simp [behind, start]

theorem endWord_behind (s : Scan) (tokens : Array Token) :
    (s.behind tokens).endWord = s.endWord.behind tokens := by
  obtain ⟨own, reading⟩ := s
  cases reading <;> simp [behind, endWord]

theorem stepOpen_behind (s : Scan) (tokens : Array Token) (c : Char) :
    (s.behind tokens).stepOpen c = (s.stepOpen c).behind tokens := by
  unfold stepOpen
  split
  · exact s.endWord_behind tokens
  · rw [s.endWord_behind tokens]
    simp [behind]
  · rfl
  · rfl

theorem step_behind (s : Scan) (tokens : Array Token) (c : Char) :
    (s.behind tokens).step c = (s.step c).behind tokens := by
  obtain ⟨own, reading⟩ := s
  cases reading with
  | between => exact stepOpen_behind ⟨own, .between⟩ tokens c
  | word text => exact stepOpen_behind ⟨own, .word text⟩ tokens c
  | quoted q text =>
      by_cases hc : c = q.mark
      · simp [step, behind, hc]
      · simp [step, behind, hc]

theorem foldl_step_behind (s : Scan) (tokens : Array Token) (l : List Char) :
    l.foldl step (s.behind tokens) = (l.foldl step s).behind tokens := by
  induction l generalizing s with
  | nil => rfl
  | cons c l ih => rw [List.foldl_cons, List.foldl_cons, step_behind, ih]

theorem finish_behind (s : Scan) (tokens : Array Token) :
    (s.behind tokens).finish = s.finish.map (tokens.toList ++ ·) := by
  obtain ⟨own, reading⟩ := s
  cases reading <;> simp [finish, behind, endWord, Except.map]

/-- What is read from between two words comes behind the tokens that are there already. -/
theorem finish_foldl_between (tokens : Array Token) (l : List Char) :
    (l.foldl step ⟨tokens, .between⟩).finish =
      (l.foldl step start).finish.map (tokens.toList ++ ·) := by
  rw [← behind_start, foldl_step_behind, finish_behind]

theorem isOpen_of_finish {tokens : List Token} (h : s.finish = .ok tokens) :
    s.IsOpen ∧ s.endWord.tokens.toList = tokens := by
  have hopen : s.IsOpen := by
    intro q text hreading
    rw [finish, hreading] at h
    cases h
  rw [hopen.finish] at h
  exact ⟨hopen, Except.ok.inj h⟩

theorem exists_quoted_of_finish {e : LineError} (h : s.finish = .error e) :
    ∃ tokens q text, s = ⟨tokens, .quoted q text⟩ := by
  obtain ⟨tokens, reading⟩ := s
  cases reading with
  | quoted q text => exact ⟨tokens, q, text, rfl⟩
  | _ => cases h

end Scan

theorem IsBlank.ne_mark {c : Char} (h : IsBlank c) (q : Quote) : c ≠ q.mark := by
  rintro rfl
  exact not_startsWord_of_blank h (.inr ⟨q, rfl⟩)

namespace Token

variable {a : String}

theorem ofLine_append (a b : String) :
    Token.ofLine (a ++ b) =
      (b.toList.foldl Scan.step (a.toList.foldl Scan.step Scan.start)).finish := by
  rw [ofLine, String.toList_append, List.foldl_append]

/-- A character that ends the word in front of it, and perhaps is a token itself, cuts a line
in two. -/
theorem ofLine_append_of_step {tokens : List Token} (h : Token.ofLine a = .ok tokens) {c : Char}
    {own : List Token}
    (hstep : ∀ s : Scan, s.IsOpen → s.step c = ⟨s.endWord.tokens ++ own.toArray, .between⟩)
    (b : String) :
    Token.ofLine (a ++ String.singleton c ++ b) =
      (Token.ofLine b).map (tokens ++ own ++ ·) := by
  obtain ⟨hopen, rfl⟩ := Scan.isOpen_of_finish h
  have hcut : (a ++ String.singleton c).toList.foldl Scan.step Scan.start =
      ⟨(a.toList.foldl Scan.step Scan.start).endWord.tokens ++ own.toArray, .between⟩ := by
    rw [String.toList_append, List.foldl_append, String.toList_singleton, List.foldl_cons,
      List.foldl_nil, hstep _ hopen]
  rw [ofLine_append, hcut, Scan.finish_foldl_between, ofLine, Array.toList_append]

theorem ofLine_append_blank {tokens : List Token} (h : Token.ofLine a = .ok tokens) {c : Char}
    (hc : IsBlank c) (b : String) :
    Token.ofLine (a ++ String.singleton c ++ b) = (Token.ofLine b).map (tokens ++ ·) := by
  have hstep : ∀ s : Scan, s.IsOpen → s.step c = ⟨s.endWord.tokens ++ [].toArray, .between⟩ := by
    intro s hopen
    rw [hopen.step_blank hc]
    simp
  rw [ofLine_append_of_step h hstep b, List.append_nil]

theorem ofLine_append_operator {tokens : List Token} (h : Token.ofLine a = .ok tokens)
    (o : Operator) (b : String) :
    Token.ofLine (a ++ String.singleton o.mark ++ b) =
      (Token.ofLine b).map (tokens ++ o.token :: ·) := by
  have hstep : ∀ s : Scan, s.IsOpen →
      s.step o.mark = ⟨s.endWord.tokens ++ [o.token].toArray, .between⟩ := by
    intro s hopen
    rw [hopen.step_mark]
    simp
  rw [ofLine_append_of_step h hstep b]
  simp

/-- A blank at its end changes neither the tokens of a line nor its error. -/
theorem ofLine_concat_blank (a : String) {c : Char} (hc : IsBlank c) :
    Token.ofLine (a ++ String.singleton c) = Token.ofLine a := by
  cases h : Token.ofLine a with
  | ok tokens =>
      have hcut := ofLine_append_blank h hc ""
      rw [String.append_empty] at hcut
      rw [hcut]
      exact congrArg Except.ok (List.append_nil tokens)
  | error e =>
      obtain ⟨tokens, q, text, hquoted⟩ := Scan.exists_quoted_of_finish h
      rw [ofLine, hquoted] at h
      rw [ofLine_append, hquoted, String.toList_singleton, List.foldl_cons, List.foldl_nil,
        Scan.step_quoted_of_ne (hc.ne_mark q)]
      exact h

/-- Behind a line that has tokens, a blank or an operator lets the rest of a line mean what it
means by itself: the tokens of both sides follow each other, with the operator between them,
and there are none if the rest has none.  A line without tokens has none with a blank behind
it either. -/
theorem ofLine_append_separator (a b : String) :
    (∀ tokens, Token.ofLine a = .ok tokens →
      (∀ c, IsBlank c →
        Token.ofLine (a ++ String.singleton c ++ b) = (Token.ofLine b).map (tokens ++ ·)) ∧
      ∀ o : Operator,
        Token.ofLine (a ++ String.singleton o.mark ++ b) =
          (Token.ofLine b).map (tokens ++ o.token :: ·)) ∧
      ∀ e, Token.ofLine a = .error e →
        ∀ c, IsBlank c → Token.ofLine (a ++ String.singleton c) = .error e := by
  refine ⟨fun tokens h ↦ ⟨fun c hc ↦ ?_, fun o ↦ ?_⟩, fun e h c hc ↦ ?_⟩
  · exact ofLine_append_blank h hc b
  · exact ofLine_append_operator h o b
  · rw [ofLine_concat_blank a hc, h]

/-- A tab ends the word that a quoted pipe belongs to, and a quote opened behind it stays open;
a pipe in its place is a token.  An open quote takes the carriage return in. -/
theorem ofLine_append_separator_quoted :
    (Token.ofLine "a' |'" = .ok [.word "a |"] ∧ IsBlank '\t' ∧
      Token.ofLine ("a' |'" ++ String.singleton '\t' ++ "'b") = .error .unfinishedQuote ∧
      Token.ofLine ("a' |'" ++ String.singleton Operator.pipe.mark ++ ">b") =
        .ok [.word "a |", .pipe, .writeTo, .word "b"]) ∧
      Token.ofLine "a '" = .error .unfinishedQuote ∧ IsBlank '\r' ∧
      Token.ofLine ("a '" ++ String.singleton '\r') = .error .unfinishedQuote := by
  have htokens : Token.ofLine "a' |'" = .ok [.word "a |"] := by decide
  have htab : IsBlank '\t' := .inr (.inl rfl)
  have hreturn : IsBlank '\r' := .inr (.inr (.inl rfl))
  have herror : Token.ofLine "a '" = .error .unfinishedQuote := by decide
  obtain ⟨hblank, -⟩ := (ofLine_append_separator "a' |'" "'b").1 _ htokens
  obtain ⟨-, hoperator⟩ := (ofLine_append_separator "a' |'" ">b").1 _ htokens
  refine ⟨⟨htokens, htab, ?_, ?_⟩, herror, hreturn, ?_⟩
  · rw [hblank '\t' htab]
    decide
  · rw [hoperator .pipe]
    decide
  · exact (ofLine_append_separator "a '" "").2 _ herror _ hreturn

end Token

end PipeShell

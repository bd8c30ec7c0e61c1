import PipeShell.Proofs.Spelling

/-!
# Lines have tokens when they can be spelled

The scan of a line gives tokens exactly when the line has a spelling, and then the tokens
of that spelling.  One direction follows the spelling: what the scan makes of a piece, of
an element and of a row of elements.  The other one follows the scan: what has been read
of a line is spelled, up to the word or the quote that is still open.
-/

namespace PipeShell

namespace Scan

variable {tokens : Array Token} {text : String} {c : Char}

/-! ## What the scan makes of a spelling -/

theorem step_word_plain (h : IsPlain c) :
    step ⟨tokens, .word text⟩ c = ⟨tokens, .word (text.push c)⟩ := by
  simp [step, stepOpen, CharClass.ofChar_plain h, Scan.text]

theorem step_word_quote (q : Quote) :
    step ⟨tokens, .word text⟩ q.mark = ⟨tokens, .quoted q text⟩ := by
  simp [step, stepOpen, CharClass.ofChar_quote, Scan.text]

theorem step_quoted_self (q : Quote) :
    step ⟨tokens, .quoted q text⟩ q.mark = ⟨tokens, .word text⟩ := by
  simp [step]

theorem step_quoted_of_ne {q : Quote} (h : c ≠ q.mark) :
    step ⟨tokens, .quoted q text⟩ c = ⟨tokens, .quoted q (text.push c)⟩ := by
  simp [step, h]

/-- A word begins as one goes on of which nothing has been read. -/
theorem step_between_of_startsWord (h : StartsWord c) :
    step ⟨tokens, .between⟩ c = step ⟨tokens, .word ""⟩ c := by
  rcases h with hplain | ⟨q, rfl⟩
  · simp [step, stepOpen, CharClass.ofChar_plain hplain, Scan.text]
  · simp [step, stepOpen, CharClass.ofChar_quote, Scan.text]

theorem push_ofList (text : List Char) (c : Char) :
    (String.ofList text).push c = String.ofList (text ++ [c]) := by
  simp

theorem foldl_quoted (q : Quote) (text : List Char) {inside : List Char}
    (h : q.mark ∉ inside) :
    inside.foldl step ⟨tokens, .quoted q (String.ofList text)⟩ =
      ⟨tokens, .quoted q (String.ofList (text ++ inside))⟩ := by
  induction inside generalizing text with
  | nil => simp
  | cons c inside ih =>
      obtain ⟨hne, hinside⟩ := not_or.1 (mt List.mem_cons.2 h)
      rw [List.foldl_cons, step_quoted_of_ne (Ne.symm hne), push_ofList, ih _ hinside,
        List.append_assoc, List.singleton_append]

theorem foldl_piece (text : List Char) (p : Piece) :
    p.chars.foldl step ⟨tokens, .word (String.ofList text)⟩ =
      ⟨tokens, .word (String.ofList (text ++ p.value))⟩ := by
  cases p with
  | plain c h => simp [Piece.chars, Piece.value, step_word_plain h]
  | quoted q inside h =>
      rw [Piece.chars, List.foldl_cons, step_word_quote, List.foldl_append, foldl_quoted q text h]
      exact step_quoted_self q

theorem foldl_pieces (text : List Char) (pieces : List Piece) :
    (pieces.flatMap Piece.chars).foldl step ⟨tokens, .word (String.ofList text)⟩ =
      ⟨tokens, .word (String.ofList (text ++ pieces.flatMap Piece.value))⟩ := by
  induction pieces generalizing text with
  | nil => simp
  | cons p pieces ih =>
      rw [List.flatMap_cons, List.foldl_append, foldl_piece, ih]
      simp

theorem foldl_word {pieces : List Piece} (hne : pieces ≠ []) :
    (pieces.flatMap Piece.chars).foldl step ⟨tokens, .between⟩ =
      ⟨tokens, .word (String.ofList (pieces.flatMap Piece.value))⟩ := by
  obtain ⟨p, ps, rfl⟩ := List.exists_cons_of_ne_nil hne
  have hword := @foldl_pieces tokens [] (p :: ps)
  obtain ⟨c, l, hchars, hstarts⟩ := p.exists_chars
  rw [List.flatMap_cons, hchars, List.cons_append, List.foldl_cons] at hword ⊢
  rw [step_between_of_startsWord hstarts]
  exact hword

/-- The scan stands outside quotes. -/
def IsOpen (s : Scan) : Prop :=
  ∀ q text, s.reading ≠ .quoted q text

theorem isOpen_between : IsOpen ⟨tokens, .between⟩ := nofun

theorem isOpen_word : IsOpen ⟨tokens, .word text⟩ := nofun

variable {s : Scan}

theorem IsOpen.endWord (h : s.IsOpen) : s.endWord = ⟨s.endWord.tokens, .between⟩ := by
  obtain ⟨tokens, reading⟩ := s
  cases reading with
  | between => rfl
  | word text => rfl
  | quoted q text => exact (h q text rfl).elim

theorem IsOpen.step (h : s.IsOpen) (c : Char) : s.step c = s.stepOpen c := by
  obtain ⟨tokens, reading⟩ := s
  cases reading with
  | between => rfl
  | word text => rfl
  | quoted q text => exact (h q text rfl).elim

theorem IsOpen.step_blank (h : s.IsOpen) (hc : IsBlank c) :
    s.step c = ⟨s.endWord.tokens, .between⟩ := by
  rw [h.step, stepOpen, CharClass.ofChar_blank hc]
  exact h.endWord

theorem IsOpen.step_mark (h : s.IsOpen) (o : Operator) :
    s.step o.mark = ⟨s.endWord.tokens.push o.token, .between⟩ := by
  rw [h.step, stepOpen, CharClass.ofChar_mark]
  dsimp only
  rw [h.endWord]

theorem IsOpen.finish (h : s.IsOpen) : s.finish = .ok s.endWord.tokens.toList := by
  obtain ⟨tokens, reading⟩ := s
  cases reading with
  | between => rfl
  | word text => rfl
  | quoted q text => exact (h q text rfl).elim

/-- A row of elements adds its tokens to those of the word that may end in front of it. -/
theorem finish_foldl_elements {es : List Element} (hapart : es.IsChain Element.Apart)
    (hopen : s.IsOpen) (hhead : s.reading ≠ .between → ∀ e ∈ es.head?, ¬ e.isWord) :
    ((es.flatMap Element.chars).foldl Scan.step s).finish =
      .ok (s.endWord.tokens.toList ++ es.filterMap Element.token?) := by
  induction es generalizing s with
  | nil => simpa using hopen.finish
  | cons e es ih =>
      rw [List.flatMap_cons, List.foldl_append]
      cases e with
      | blank c hc =>
          rw [Element.chars, List.foldl_cons, List.foldl_nil, hopen.step_blank hc,
            ih hapart.of_cons isOpen_between (fun hne ↦ (hne rfl).elim)]
          rfl
      | operator o =>
          rw [Element.chars, List.foldl_cons, List.foldl_nil, hopen.step_mark,
            ih hapart.of_cons isOpen_between (fun hne ↦ (hne rfl).elim)]
          simp [Scan.endWord, Element.token?]
      | word pieces hne =>
          have hbetween : s.reading = .between := by
            by_contra hread
            exact hhead hread _ rfl rfl
          obtain ⟨tokens, reading⟩ := s
          obtain rfl : reading = .between := hbetween
          rw [Element.chars, foldl_word hne, ih hapart.of_cons isOpen_word
            (fun _ ↦ Element.not_isWord_head hapart)]
          simp [Scan.endWord, Element.token?]

end Scan

/-! ## What the scan has read is spelled -/

namespace Spelling

/-- The spelling of an empty line. -/
def empty : Spelling :=
  ⟨[], .nil⟩

/-- Whether a word may follow. -/
def TakesWord (s : Spelling) : Prop :=
  ∀ e ∈ s.elements.getLast?, ¬ e.isWord

/-- A spelling with one more element at its end. -/
def concat (s : Spelling) (e : Element) (h : e.isWord → s.TakesWord) : Spelling :=
  ⟨s.elements ++ [e], List.isChain_append.2 ⟨s.apart, .singleton e, fun a ha b hb ↦ by
    obtain rfl : e = b := by simpa using hb
    exact fun hwords ↦ h hwords.2 a ha hwords.1⟩⟩

variable {s : Spelling} {e : Element} {h : e.isWord → s.TakesWord}

theorem chars_concat : (s.concat e h).chars = s.chars ++ e.chars := by
  simp [concat, chars]

theorem tokens_concat : (s.concat e h).tokens = s.tokens ++ e.token?.toList := by
  cases htoken : e.token? <;> simp [concat, tokens, htoken]

theorem takesWord_concat (he : ¬ e.isWord) : (s.concat e h).TakesWord := by
  simpa [TakesWord, concat] using he

end Spelling

namespace Scan

/-- What a scan has read of a line: a spelling, and behind it the pieces of the word that
is being read, the last of which may be a quote still open. -/
inductive Covers : Scan → List Char → Prop where
  | between {tokens : Array Token} {l : List Char} (s : Spelling) (htakes : s.TakesWord)
      (htokens : tokens.toList = s.tokens) (hchars : l = s.chars) :
      Covers ⟨tokens, .between⟩ l
  | word {tokens : Array Token} {text : String} {l : List Char} (s : Spelling)
      (htakes : s.TakesWord) (htokens : tokens.toList = s.tokens) (pieces : List Piece)
      (hne : pieces ≠ []) (htext : text = String.ofList (pieces.flatMap Piece.value))
      (hchars : l = s.chars ++ pieces.flatMap Piece.chars) : Covers ⟨tokens, .word text⟩ l
  | quoted {tokens : Array Token} {text : String} {l : List Char} (s : Spelling)
      (htakes : s.TakesWord) (htokens : tokens.toList = s.tokens) (pieces : List Piece)
      (q : Quote) (inside : List Char) (hinside : q.mark ∉ inside)
      (htext : text = String.ofList (pieces.flatMap Piece.value ++ inside))
      (hchars : l = s.chars ++ pieces.flatMap Piece.chars ++ q.mark :: inside) :
      Covers ⟨tokens, .quoted q text⟩ l

variable {s : Scan} {l : List Char}

theorem covers_start : Covers start [] :=
  .between .empty (by simp [Spelling.TakesWord, Spelling.empty]) rfl rfl

/-- Outside quotes all that has been read is spelled, when the word is ended. -/
theorem Covers.exists_spelling (h : Covers s l) (hopen : s.IsOpen) :
    ∃ sp : Spelling, sp.chars = l ∧ sp.tokens = s.endWord.tokens.toList := by
  cases h with
  | between sp htakes htokens hchars => exact ⟨sp, hchars.symm, htokens.symm⟩
  | word sp htakes htokens pieces hne htext hchars =>
      refine ⟨sp.concat (.word pieces hne) fun _ ↦ htakes, ?_, ?_⟩
      · rw [Spelling.chars_concat, hchars]
        rfl
      · rw [Spelling.tokens_concat, ← htokens, htext]
        simp [endWord, Element.token?]
  | quoted sp htakes htokens pieces q inside => exact (hopen q _ rfl).elim

/-- A blank or an operator ends the word in front of it. -/
theorem Covers.concat (h : Covers s l) (hopen : s.IsOpen) {e : Element} (he : ¬ e.isWord)
    {tokens : Array Token} (htokens : tokens.toList = s.endWord.tokens.toList ++ e.token?.toList) :
    Covers ⟨tokens, .between⟩ (l ++ e.chars) := by
  obtain ⟨sp, rfl, hsp⟩ := h.exists_spelling hopen
  refine .between (sp.concat e (absurd · he)) (Spelling.takesWord_concat he) ?_ ?_
  · rw [Spelling.tokens_concat, htokens, hsp]
  · rw [Spelling.chars_concat]

/-- A quote begins a piece of the word in front of it, or a word. -/
theorem Covers.step_quote (h : Covers s l) (hopen : s.IsOpen) (q : Quote) :
    Covers (s.step q.mark) (l ++ [q.mark]) := by
  cases h with
  | between sp htakes htokens hchars =>
      rw [step_between_of_startsWord (.inr ⟨q, rfl⟩), step_word_quote]
      exact .quoted sp htakes htokens [] q [] List.not_mem_nil rfl (by simp [hchars])
  | word sp htakes htokens pieces hne htext hchars =>
      rw [step_word_quote]
      exact .quoted sp htakes htokens pieces q [] List.not_mem_nil (by simpa using htext)
        (by simp [hchars])
  | quoted sp htakes htokens pieces q' inside => exact (hopen q' _ rfl).elim

theorem Covers.step_plain (h : Covers s l) (hopen : s.IsOpen) {c : Char} (hc : IsPlain c) :
    Covers (s.step c) (l ++ [c]) := by
  cases h with
  | between sp htakes htokens hchars =>
      rw [step_between_of_startsWord (.inl hc), step_word_plain hc]
      exact .word sp htakes htokens [.plain c hc] (by simp) (by simp [Piece.value])
        (by simp [hchars, Piece.chars])
  | word sp htakes htokens pieces hne htext hchars =>
      rw [step_word_plain hc]
      exact .word sp htakes htokens (pieces ++ [.plain c hc]) (by simp)
        (by simp [htext, Piece.value]) (by simp [hchars, Piece.chars])
  | quoted sp htakes htokens pieces q inside => exact (hopen q _ rfl).elim

/-- In quotes only the quote itself ends the piece. -/
theorem Covers.step_quoted {tokens : Array Token} {q : Quote} {text : String}
    (h : Covers ⟨tokens, .quoted q text⟩ l) (c : Char) :
    Covers (step ⟨tokens, .quoted q text⟩ c) (l ++ [c]) := by
  cases h with
  | quoted sp htakes htokens pieces _ inside hinside htext hchars =>
      by_cases hc : c = q.mark
      · subst hc
        rw [step_quoted_self]
        exact .word sp htakes htokens (pieces ++ [.quoted q inside hinside]) (by simp)
          (by simp [htext, Piece.value]) (by simp [hchars, Piece.chars])
      · have hmem : q.mark ∉ inside ++ [c] := by simpa [hinside] using Ne.symm hc
        rw [step_quoted_of_ne hc, htext, push_ofList, List.append_assoc]
        exact .quoted sp htakes htokens pieces q (inside ++ [c]) hmem rfl (by simp [hchars])

/-- Every character keeps what has been read spelled. -/
theorem Covers.step (h : Covers s l) (c : Char) : Covers (s.step c) (l ++ [c]) := by
  by_cases hopen : s.IsOpen
  · rcases char_cases c with hblank | ⟨o, rfl⟩ | ⟨q, rfl⟩ | hplain
    · rw [hopen.step_blank hblank]
      apply h.concat (e := .blank c hblank) hopen Bool.false_ne_true
      simp [Element.token?]
    · rw [hopen.step_mark]
      apply h.concat (e := .operator o) hopen Bool.false_ne_true
      simp [Element.token?]
    · exact h.step_quote hopen q
    · exact h.step_plain hopen hplain
  · obtain ⟨tokens, reading⟩ := s
    cases reading with
    | between => exact (hopen isOpen_between).elim
    | word text => exact (hopen isOpen_word).elim
    | quoted q text => exact h.step_quoted c

theorem Covers.foldl (h : Covers s l) (m : List Char) : Covers (m.foldl Scan.step s) (l ++ m) := by
  induction m generalizing s l with
  | nil => simpa using h
  | cons c m ih => simpa using ih (h.step c)

/-- A scan that ends outside quotes has read a spelled line. -/
theorem Covers.exists_of_finish {tokens : List Token} (h : Covers s l)
    (hfinish : s.finish = .ok tokens) : ∃ sp : Spelling, sp.chars = l ∧ sp.tokens = tokens := by
  have hopen : s.IsOpen := by
    rintro q text hread
    simp [finish, hread] at hfinish
  obtain ⟨sp, hchars, htokens⟩ := h.exists_spelling hopen
  rw [hopen.finish] at hfinish
  exact ⟨sp, hchars, htokens.trans (Except.ok.inj hfinish)⟩

theorem finish_ne_invalidUtf8 (s : Scan) : s.finish ≠ .error .invalidUtf8 := by
  unfold finish
  split <;> simp

end Scan

namespace Token

/-- A spelled line has the tokens of its spelling. -/
theorem ofLine_of_chars {line : String} {s : Spelling} (h : s.chars = line.toList) :
    Token.ofLine line = .ok s.tokens := by
  have hscan := Scan.finish_foldl_elements (s := Scan.start) s.apart Scan.isOpen_between
    fun hne ↦ (hne rfl).elim
  rw [ofLine, ← h]
  exact hscan

theorem exists_spelling_of_ofLine {line : String} {tokens : List Token}
    (h : Token.ofLine line = .ok tokens) :
    ∃ s : Spelling, s.chars = line.toList ∧ s.tokens = tokens :=
  (Scan.covers_start.foldl line.toList).exists_of_finish h

/-- A line has tokens exactly when it is a row of blanks, operators and words without two
words side by side; the tokens are then its operators and the values of its words, in
order.  Any other line has an unfinished quote.  There is never more than one such row. -/
theorem ofLine_eq_ok_iff_spelling (line : String) :
    (∀ tokens, Token.ofLine line = .ok tokens ↔
      ∃ s : Spelling, s.chars = line.toList ∧ s.tokens = tokens) ∧
    (Token.ofLine line = .error .unfinishedQuote ↔ ¬ ∃ s : Spelling, s.chars = line.toList) ∧
    ∀ s s' : Spelling, s.chars = line.toList → s'.chars = line.toList → s = s' := by
  refine ⟨fun tokens ↦ ⟨exists_spelling_of_ofLine, ?_⟩, ⟨?_, ?_⟩, fun s s' h h' ↦ ?_⟩
  · rintro ⟨s, hchars, rfl⟩
    exact ofLine_of_chars hchars
  · rintro herror ⟨s, hchars⟩
    rw [ofLine_of_chars hchars] at herror
    cases herror
  · intro hnone
    cases hline : Token.ofLine line with
    | ok tokens =>
        obtain ⟨s, hchars, -⟩ := exists_spelling_of_ofLine hline
        exact (hnone ⟨s, hchars⟩).elim
    | error e =>
        cases e with
        | unfinishedQuote => rfl
        | invalidUtf8 => exact (Scan.finish_ne_invalidUtf8 _ hline).elim
  · exact Spelling.chars_injective (h.trans h'.symm)

/-- Quotes of both kinds and a quoted pipe in one word, and an empty word behind a pipe. -/
theorem ofLine_eq_ok_iff_spelling_glued :
    ∃ s : Spelling, s.chars = "a' |'\"'\"|''".toList ∧
      s.tokens = [.word "a |'", .pipe, .word ""] ∧
      ∀ s' : Spelling, s'.chars = "a' |'\"'\"|''".toList → s' = s := by
  obtain ⟨hok, -, hunique⟩ := ofLine_eq_ok_iff_spelling "a' |'\"'\"|''"
  obtain ⟨s, hchars, htokens⟩ := (hok [.word "a |'", .pipe, .word ""]).1 (by decide)
  exact ⟨s, hchars, htokens, fun s' hs' ↦ hunique s' s hs' hchars⟩

end Token

end PipeShell

import Mathlib.Data.List.Chain
import PipeShell.Token.OfLine

/-!
# How a line spells its tokens

A line is a row of blanks, operators and words.  A word is a row of one or more pieces,
each a plain character or a text in quotes, and two words never stand side by side: the
pieces of both would be one word.  This is stated here without reading anything.  A line
has at most one spelling, since its first character says what the row begins with, a
piece in quotes ends with the next quote of its kind, and a word ends where no other
piece can begin.
-/

namespace PipeShell

/-- The characters that separate words. -/
def IsBlank (c : Char) : Prop :=
  c = ' ' ∨ c = '\t' ∨ c = '\r' ∨ c = '\n'

/-- The characters that are tokens by themselves. -/
inductive Operator where
  | pipe
  | readFrom
  | writeTo
  deriving DecidableEq, Repr

namespace Operator

def mark : Operator → Char
  | .pipe => '|'
  | .readFrom => '<'
  | .writeTo => '>'

def token : Operator → Token
  | .pipe => .pipe
  | .readFrom => .readFrom
  | .writeTo => .writeTo

end Operator

/-- The characters that stand for themselves outside quotes. -/
structure IsPlain (c : Char) : Prop where
  not_blank : ¬ IsBlank c
  ne_mark : ∀ o : Operator, c ≠ o.mark
  ne_quote : ∀ q : Quote, c ≠ q.mark

/-! ## Every character is of one kind -/

namespace CharClass

theorem ofChar_blank {c : Char} (h : IsBlank c) : ofChar c = .blank :=
  if_pos h

theorem ofChar_mark (o : Operator) : ofChar o.mark = .operator o.token := by
  cases o <;> rfl

theorem ofChar_quote (q : Quote) : ofChar q.mark = .quote q := by
  cases q <;> rfl

theorem ofChar_plain {c : Char} (h : IsPlain c) : ofChar c = .plain := by
  have hblank : ¬ (c = ' ' ∨ c = '\t' ∨ c = '\r' ∨ c = '\n') := h.not_blank
  have hpipe : c ≠ '|' := h.ne_mark .pipe
  have hreadFrom : c ≠ '<' := h.ne_mark .readFrom
  have hwriteTo : c ≠ '>' := h.ne_mark .writeTo
  have hsingle : c ≠ '\'' := h.ne_quote .single
  have hdouble : c ≠ '"' := h.ne_quote .double
  rw [ofChar, if_neg hblank, if_neg hpipe, if_neg hreadFrom, if_neg hwriteTo,
    if_neg hsingle, if_neg hdouble]

end CharClass

theorem char_cases (c : Char) :
    IsBlank c ∨ (∃ o : Operator, c = o.mark) ∨ (∃ q : Quote, c = q.mark) ∨ IsPlain c := by
  by_cases hblank : IsBlank c
  · exact .inl hblank
  by_cases hmark : ∃ o : Operator, c = o.mark
  · exact .inr (.inl hmark)
  by_cases hquote : ∃ q : Quote, c = q.mark
  · exact .inr (.inr (.inl hquote))
  · exact .inr (.inr (.inr ⟨hblank, not_exists.1 hmark, not_exists.1 hquote⟩))

theorem Quote.mark_injective {q q' : Quote} (h : q.mark = q'.mark) : q = q' :=
  CharClass.quote.inj (by rw [← CharClass.ofChar_quote q, h, CharClass.ofChar_quote])

theorem Operator.mark_injective {o o' : Operator} (h : o.mark = o'.mark) : o = o' := by
  have htoken : o.token = o'.token :=
    CharClass.operator.inj (by rw [← CharClass.ofChar_mark o, h, CharClass.ofChar_mark])
  cases o <;> cases o' <;> first | rfl | cases htoken

/-! ## Pieces -/

/-- A plain character, or a text in quotes that does not hold the quote itself. -/
inductive Piece where
  | plain (c : Char) (h : IsPlain c)
  | quoted (q : Quote) (inside : List Char) (h : q.mark ∉ inside)

namespace Piece

/-- How a piece is spelled. -/
def chars : Piece → List Char
  | .plain c _ => [c]
  | .quoted q inside _ => q.mark :: (inside ++ [q.mark])

/-- What a piece adds to its word. -/
def value : Piece → List Char
  | .plain c _ => [c]
  | .quoted _ inside _ => inside

end Piece

/-- What a row of pieces begins with. -/
def StartsWord (c : Char) : Prop :=
  IsPlain c ∨ ∃ q : Quote, c = q.mark

theorem not_startsWord_of_blank {c : Char} (h : IsBlank c) : ¬ StartsWord c := by
  rintro (hplain | ⟨q, rfl⟩)
  · exact hplain.not_blank h
  · have hclass := CharClass.ofChar_blank h
    rw [CharClass.ofChar_quote] at hclass
    cases hclass

theorem not_startsWord_mark (o : Operator) : ¬ StartsWord o.mark := by
  rintro (hplain | ⟨q, hq⟩)
  · exact hplain.ne_mark o rfl
  · have hclass := CharClass.ofChar_mark o
    rw [hq, CharClass.ofChar_quote] at hclass
    cases hclass

theorem Piece.exists_chars (p : Piece) : ∃ c l, p.chars = c :: l ∧ StartsWord c := by
  cases p with
  | plain c h => exact ⟨c, [], rfl, .inl h⟩
  | quoted q inside h => exact ⟨q.mark, inside ++ [q.mark], rfl, .inr ⟨q, rfl⟩⟩

/-- A list is cut in one way only at the first place of a value. -/
theorem append_cons_inj_of_notMem_left {α : Type u} {a : α} {u u' v v' : List α}
    (hu : a ∉ u) (hu' : a ∉ u') (h : u ++ a :: v = u' ++ a :: v') : u = u' ∧ v = v' := by
  induction u generalizing u' with
  | nil =>
      cases u' with
      | nil => exact ⟨rfl, (List.cons.inj h).2⟩
      | cons b u' => exact (hu' (by rw [(List.cons.inj h).1]; exact List.mem_cons_self)).elim
  | cons b u ih =>
      cases u' with
      | nil => exact (hu (by rw [← (List.cons.inj h).1]; exact List.mem_cons_self)).elim
      | cons b' u' =>
          obtain ⟨rfl, hrest⟩ := List.cons.inj h
          obtain ⟨rfl, hv⟩ := ih (fun hmem ↦ hu (List.mem_cons_of_mem _ hmem))
            (fun hmem ↦ hu' (List.mem_cons_of_mem _ hmem)) hrest
          exact ⟨rfl, hv⟩

namespace Piece

theorem chars_append_inj {p p' : Piece} {l l' : List Char} (h : p.chars ++ l = p'.chars ++ l') :
    p = p' ∧ l = l' := by
  cases p with
  | plain c hc =>
      cases p' with
      | plain c' hc' =>
          obtain ⟨rfl, hl⟩ := List.cons.inj h
          exact ⟨rfl, hl⟩
      | quoted q inside hq => exact absurd (List.cons.inj h).1 (hc.ne_quote q)
  | quoted q inside hq =>
      cases p' with
      | plain c hc => exact absurd (List.cons.inj h).1.symm (hc.ne_quote q)
      | quoted q' inside' hq' =>
          obtain ⟨hmark, hrest⟩ := List.cons.inj h
          obtain rfl := Quote.mark_injective hmark
          simp only [List.append_eq, List.append_assoc, List.cons_append, List.nil_append]
            at hrest
          obtain ⟨rfl, hl⟩ := append_cons_inj_of_notMem_left hq hq' hrest
          exact ⟨rfl, hl⟩

/-- A row of pieces ends where no piece can begin, and is cut into pieces in one way. -/
theorem flatMap_chars_append_inj {ps ps' : List Piece} {l l' : List Char}
    (hl : ∀ c ∈ l.head?, ¬ StartsWord c) (hl' : ∀ c ∈ l'.head?, ¬ StartsWord c)
    (h : ps.flatMap chars ++ l = ps'.flatMap chars ++ l') : ps = ps' ∧ l = l' := by
  induction ps generalizing ps' with
  | nil =>
      cases ps' with
      | nil => exact ⟨rfl, h⟩
      | cons p' ps' =>
          obtain ⟨c, m, hchars, hstarts⟩ := p'.exists_chars
          obtain rfl : l = c :: (m ++ (ps'.flatMap chars ++ l')) := by
            simpa [hchars] using h
          exact (hl c rfl hstarts).elim
  | cons p ps ih =>
      cases ps' with
      | nil =>
          obtain ⟨c, m, hchars, hstarts⟩ := p.exists_chars
          obtain rfl : l' = c :: (m ++ (ps.flatMap chars ++ l)) := by
            simpa [hchars] using h.symm
          exact (hl' c rfl hstarts).elim
      | cons p' ps' =>
          rw [List.flatMap_cons, List.flatMap_cons, List.append_assoc, List.append_assoc] at h
          obtain ⟨rfl, hrest⟩ := chars_append_inj h
          obtain ⟨rfl, hl⟩ := ih hrest
          exact ⟨rfl, hl⟩

end Piece

/-! ## Elements -/

/-- A blank, an operator, or a word of one or more pieces. -/
inductive Element where
  | blank (c : Char) (h : IsBlank c)
  | operator (o : Operator)
  | word (pieces : List Piece) (h : pieces ≠ [])

namespace Element

def chars : Element → List Char
  | .blank c _ => [c]
  | .operator o => [o.mark]
  | .word pieces _ => pieces.flatMap Piece.chars

def token? : Element → Option Token
  | .blank _ _ => none
  | .operator o => some o.token
  | .word pieces _ => some (.word (String.ofList (pieces.flatMap Piece.value)))

def isWord : Element → Bool
  | .word _ _ => true
  | _ => false

/-- Whether two elements may stand side by side. -/
def Apart (a b : Element) : Prop :=
  ¬ (a.isWord ∧ b.isWord)

theorem exists_chars_of_not_isWord {e : Element} (h : ¬ e.isWord) :
    ∃ c, e.chars = [c] ∧ ¬ StartsWord c := by
  cases e with
  | blank c hc => exact ⟨c, rfl, not_startsWord_of_blank hc⟩
  | operator o => exact ⟨o.mark, rfl, not_startsWord_mark o⟩
  | word pieces hne => exact absurd rfl h

theorem exists_chars_of_isWord {e : Element} (h : e.isWord) :
    ∃ c l, e.chars = c :: l ∧ StartsWord c := by
  cases e with
  | blank c hc => cases h
  | operator o => cases h
  | word pieces hne =>
      obtain ⟨p, ps, rfl⟩ := List.exists_cons_of_ne_nil hne
      obtain ⟨c, l, hchars, hstarts⟩ := p.exists_chars
      exact ⟨c, l ++ ps.flatMap Piece.chars, by simp [chars, hchars], hstarts⟩

theorem exists_chars (e : Element) : ∃ c l, e.chars = c :: l := by
  by_cases h : e.isWord
  · obtain ⟨c, l, hchars, -⟩ := exists_chars_of_isWord h
    exact ⟨c, l, hchars⟩
  · obtain ⟨c, hchars, -⟩ := exists_chars_of_not_isWord h
    exact ⟨c, [], hchars⟩

/-- Elements of which the first is no word do not lengthen a word in front of them. -/
theorem not_startsWord_head {es : List Element} (h : ∀ e ∈ es.head?, ¬ e.isWord) :
    ∀ c ∈ (es.flatMap chars).head?, ¬ StartsWord c := by
  cases es with
  | nil => simp
  | cons e es =>
      obtain ⟨c, hchars, hstarts⟩ := exists_chars_of_not_isWord (h e rfl)
      simpa [hchars] using hstarts

theorem not_isWord_head {pieces : List Piece} {hne : pieces ≠ []} {es : List Element}
    (h : (word pieces hne :: es).IsChain Apart) : ∀ e ∈ es.head?, ¬ e.isWord := by
  cases es with
  | nil => simp
  | cons e es =>
      have hapart := (List.isChain_cons_cons.1 h).1
      intro e' he'
      obtain rfl : e = e' := by simpa using he'
      exact fun hword ↦ hapart ⟨rfl, hword⟩

/-- The first character decides what an element is, and with it where the element ends. -/
theorem chars_append_inj {e e' : Element} {es es' : List Element}
    (h : (e :: es).IsChain Apart) (h' : (e' :: es').IsChain Apart)
    (heq : e.chars ++ es.flatMap chars = e'.chars ++ es'.flatMap chars) :
    e = e' ∧ es.flatMap chars = es'.flatMap chars := by
  by_cases hword : e.isWord <;> by_cases hword' : e'.isWord
  · cases e with
    | word pieces hne =>
        cases e' with
        | word pieces' hne' =>
            obtain ⟨rfl, hrest⟩ := Piece.flatMap_chars_append_inj
              (not_startsWord_head (not_isWord_head h))
              (not_startsWord_head (not_isWord_head h')) heq
            exact ⟨rfl, hrest⟩
        | _ => cases hword'
    | _ => cases hword
  · obtain ⟨c, l, hchars, hstarts⟩ := exists_chars_of_isWord hword
    obtain ⟨c', hchars', hstarts'⟩ := exists_chars_of_not_isWord hword'
    rw [hchars, hchars'] at heq
    exact absurd ((List.cons.inj heq).1 ▸ hstarts) hstarts'
  · obtain ⟨c, hchars, hstarts⟩ := exists_chars_of_not_isWord hword
    obtain ⟨c', l', hchars', hstarts'⟩ := exists_chars_of_isWord hword'
    rw [hchars, hchars'] at heq
    exact absurd ((List.cons.inj heq).1 ▸ hstarts') hstarts
  · cases e with
    | blank c hc =>
        cases e' with
        | blank c' hc' =>
            obtain ⟨rfl, hrest⟩ := List.cons.inj heq
            exact ⟨rfl, hrest⟩
        | operator o =>
            have hclass := CharClass.ofChar_blank hc
            rw [(List.cons.inj heq).1, CharClass.ofChar_mark] at hclass
            cases hclass
        | word pieces hne => exact absurd rfl hword'
    | operator o =>
        cases e' with
        | blank c hc =>
            have hclass := CharClass.ofChar_blank hc
            rw [← (List.cons.inj heq).1, CharClass.ofChar_mark] at hclass
            cases hclass
        | operator o' =>
            obtain ⟨hmark, hrest⟩ := List.cons.inj heq
            obtain rfl := Operator.mark_injective hmark
            exact ⟨rfl, hrest⟩
        | word pieces hne => exact absurd rfl hword'
    | word pieces hne => exact absurd rfl hword

theorem flatMap_chars_inj {es es' : List Element} (h : es.IsChain Apart)
    (h' : es'.IsChain Apart) (heq : es.flatMap chars = es'.flatMap chars) : es = es' := by
  induction es generalizing es' with
  | nil =>
      cases es' with
      | nil => rfl
      | cons e' es' =>
          obtain ⟨c, l, hchars⟩ := e'.exists_chars
          simp [hchars] at heq
  | cons e es ih =>
      cases es' with
      | nil =>
          obtain ⟨c, l, hchars⟩ := e.exists_chars
          simp [hchars] at heq
      | cons e' es' =>
          obtain ⟨rfl, hrest⟩ := chars_append_inj h h' heq
          obtain rfl : es = es' := ih h.tail h'.tail hrest
          rfl

end Element

/-! ## Spellings -/

/-- A row of blanks, operators and words of which no two words stand side by side. -/
structure Spelling where
  elements : List Element
  apart : elements.IsChain Element.Apart

namespace Spelling

/-- The line that is spelled. -/
def chars (s : Spelling) : List Char :=
  s.elements.flatMap Element.chars

/-- The operators and the values of the words, in order. -/
def tokens (s : Spelling) : List Token :=
  s.elements.filterMap Element.token?

/-- A line has at most one spelling. -/
theorem chars_injective {s s' : Spelling} (h : s.chars = s'.chars) : s = s' := by
  obtain ⟨elements, hapart⟩ := s
  obtain ⟨elements', hapart'⟩ := s'
  obtain rfl : elements = elements' := Element.flatMap_chars_inj hapart hapart' h
  rfl

end Spelling

end PipeShell

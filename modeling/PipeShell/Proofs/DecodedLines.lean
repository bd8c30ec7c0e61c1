import Mathlib
import PipeShell.Proofs.LineEndings
import PipeShell.Proofs.TextForms

/-!
# Lines are cut before they are decoded

In the form of a text a byte of the ASCII range stands for its character and for nothing else:
no character is torn by a line feed, and no broken sequence is made whole by one.  So it makes
no difference whether the lines are cut from the bytes and decoded one by one, or the bytes
decoded as a whole and the lines cut from the text.  Bytes are the form of a text exactly if
every line of them is, and if they are not, some line is rejected for it.
-/

namespace PipeShell

open String (utf8EncodeChar)

universe u

/-- Bytes that are the form of a text. -/
def IsText (bytes : Bytes) : Prop :=
  ∃ text, encode text = bytes

theorem encode_ofList (chars : List Char) :
    encode (String.ofList chars) = chars.flatMap utf8EncodeChar := by
  rw [encode_eq_flatMap, String.toList_ofList]

theorem isText_iff_exists_chars {bytes : Bytes} :
    IsText bytes ↔ ∃ chars : List Char, chars.flatMap utf8EncodeChar = bytes := by
  constructor
  · rintro ⟨text, rfl⟩
    exact ⟨text.toList, (encode_eq_flatMap text).symm⟩
  · rintro ⟨chars, rfl⟩
    exact ⟨String.ofList chars, encode_ofList chars⟩

theorem isText_nil : IsText [] :=
  isText_iff_exists_chars.2 ⟨[], rfl⟩

theorem IsText.append {front rest : Bytes} (hfront : IsText front) (hrest : IsText rest) :
    IsText (front ++ rest) := by
  obtain ⟨chars, rfl⟩ := isText_iff_exists_chars.1 hfront
  obtain ⟨chars', rfl⟩ := isText_iff_exists_chars.1 hrest
  exact isText_iff_exists_chars.2 ⟨chars ++ chars', List.flatMap_append⟩

theorem isText_iff_decode? {bytes : Bytes} : IsText bytes ↔ Utf8.decode? bytes ≠ none := by
  simp only [IsText, ← Utf8.decode?_eq_some_iff, Option.ne_none_iff_exists']

/-! ## Bytes of the ASCII range in the form of a text -/

section Ascii

variable {a c : Char} {b : UInt8}

/-- A character with a form of one byte is in the ASCII range, and that byte is its number. -/
theorem toNat_of_utf8EncodeChar (h : utf8EncodeChar a = [b]) :
    a.toNat < 0x80 ∧ b.toNat = a.toNat := by
  rcases toNat_lt_cases a with hone | htwo | hthree | hfour
  · rw [utf8EncodeChar_one hone, List.singleton_inj] at h
    refine ⟨hone, ?_⟩
    rw [← h, UInt8.toNat_ofNat']
    omega
  · simp [utf8EncodeChar_two htwo.1 htwo.2] at h
  · simp [utf8EncodeChar_three hthree.1 hthree.2] at h
  · simp [utf8EncodeChar_four hfour.1 hfour.2] at h

/-- The bytes of a character beyond the ASCII range are beyond it. -/
theorem le_toNat_of_mem_utf8EncodeChar (h : 0x80 ≤ c.toNat) (hb : b ∈ utf8EncodeChar c) :
    0x80 ≤ b.toNat := by
  rcases toNat_lt_cases c with hone | htwo | hthree | hfour
  · omega
  · rw [utf8EncodeChar_two htwo.1 htwo.2] at hb
    simp only [List.mem_cons, List.not_mem_nil, or_false] at hb
    rcases hb with rfl | rfl <;> rw [UInt8.toNat_ofNat'] <;> omega
  · rw [utf8EncodeChar_three hthree.1 hthree.2] at hb
    simp only [List.mem_cons, List.not_mem_nil, or_false] at hb
    rcases hb with rfl | rfl | rfl <;> rw [UInt8.toNat_ofNat'] <;> omega
  · rw [utf8EncodeChar_four hfour.1 hfour.2] at hb
    simp only [List.mem_cons, List.not_mem_nil, or_false] at hb
    rcases hb with rfl | rfl | rfl | rfl <;> rw [UInt8.toNat_ofNat'] <;> omega

/-- A byte of the ASCII range is in the form of no character but its own. -/
theorem mem_utf8EncodeChar_iff (h : utf8EncodeChar a = [b]) : b ∈ utf8EncodeChar c ↔ c = a := by
  obtain ⟨ha, hvalue⟩ := toNat_of_utf8EncodeChar h
  constructor
  · intro hmem
    by_cases hc : c.toNat < 0x80
    · rw [utf8EncodeChar_one hc, List.mem_singleton] at hmem
      rw [hmem, UInt8.toNat_ofNat'] at hvalue
      rw [← Char.ofNat_toNat c, ← Char.ofNat_toNat a, ← hvalue]
      congr 1
      omega
    · have hle := le_toNat_of_mem_utf8EncodeChar (by omega) hmem
      omega
  · rintro rfl
    rw [h]
    exact List.mem_singleton_self b

theorem mem_flatMap_utf8EncodeChar_iff (h : utf8EncodeChar a = [b]) (chars : List Char) :
    b ∈ chars.flatMap utf8EncodeChar ↔ a ∈ chars := by
  simp only [List.mem_flatMap, mem_utf8EncodeChar_iff h, exists_eq_right]

/-- What stands on either side of a byte of the ASCII range is the form of a text by itself. -/
theorem isText_append_ascii (hform : utf8EncodeChar a = [b]) (front rest : Bytes) :
    IsText (front ++ b :: rest) ↔ IsText front ∧ IsText rest := by
  constructor
  · intro h
    obtain ⟨chars, hchars⟩ := isText_iff_exists_chars.1 h
    induction chars generalizing front with
    | nil => simp at hchars
    | cons c chars ih =>
        have hfirst : IsText (utf8EncodeChar c) := isText_iff_exists_chars.2 ⟨[c], by simp⟩
        rw [List.flatMap_cons, List.append_eq_append_iff] at hchars
        rcases hchars with ⟨front', rfl, hbehind⟩ | ⟨within, hwithin, hbehind⟩
        · -- The byte stands behind the first character.
          obtain ⟨hfront, hrest⟩ :=
            ih front' (isText_iff_exists_chars.2 ⟨chars, hbehind⟩) hbehind
          exact ⟨hfirst.append hfront, hrest⟩
        · cases within with
          | nil =>
              obtain ⟨-, hrest⟩ :=
                ih [] (isText_iff_exists_chars.2 ⟨chars, hbehind.symm⟩) hbehind.symm
              rw [List.append_nil] at hwithin
              exact ⟨hwithin ▸ hfirst, hrest⟩
          | cons b' within =>
              -- The byte is the first character, and so all of its form.
              obtain ⟨rfl, hrest⟩ := List.cons_eq_cons.1 hbehind
              have hc : c = a := by
                rw [← mem_utf8EncodeChar_iff hform, hwithin]
                simp
              rw [hc, hform, List.singleton_eq_append_iff] at hwithin
              obtain ⟨rfl, hwithin⟩ | ⟨-, hnone⟩ := hwithin
              · obtain ⟨-, rfl⟩ := List.cons_eq_cons.1 hwithin
                exact ⟨isText_nil, isText_iff_exists_chars.2 ⟨chars, hrest.symm⟩⟩
              · cases hnone
  · rintro ⟨hfront, hrest⟩
    have hbyte : IsText [b] := isText_iff_exists_chars.2 ⟨[a], by simpa using hform⟩
    rw [← List.singleton_append]
    exact hfront.append (hbyte.append hrest)

end Ascii

/-! ## Lines of bytes and lines of text -/

/-- A text is one line that is not ended, or a line that is and a text behind it. -/
theorem induction_by_lines {α : Type u} [DecidableEq α] (feed : α) {motive : List α → Prop}
    (last : ∀ part, feed ∉ part → motive part)
    (more : ∀ part rest, feed ∉ part → motive rest → motive (part ++ feed :: rest))
    (text : List α) : motive text := by
  by_cases hfeed : feed ∈ text
  · obtain ⟨part, rest, htext, hpart⟩ := List.eq_append_cons_of_mem hfeed
    have hless : rest.length < text.length := by
      rw [htext, List.length_append, List.length_cons]
      omega
    rw [htext]
    exact more part rest hpart (induction_by_lines feed last more rest)
  · exact last text hfeed
termination_by text.length

theorem utf8EncodeChar_lineFeed : utf8EncodeChar '\n' = [lineFeed] := by
  decide

theorem utf8EncodeChar_carriageReturn : utf8EncodeChar '\r' = [carriageReturn] := by
  decide

theorem lineFeed_mem_iff (chars : List Char) :
    lineFeed ∈ chars.flatMap utf8EncodeChar ↔ '\n' ∈ chars :=
  mem_flatMap_utf8EncodeChar_iff utf8EncodeChar_lineFeed chars

theorem withoutLast_flatMap (chars : List Char) :
    withoutLast carriageReturn (chars.flatMap utf8EncodeChar) =
      (withoutLast '\r' chars).flatMap utf8EncodeChar := by
  obtain rfl | ⟨front, c, rfl⟩ := List.eq_nil_or_concat chars
  · rfl
  rw [List.concat_eq_append, List.flatMap_append, List.flatMap_singleton]
  by_cases hc : c = '\r'
  · rw [hc, utf8EncodeChar_carriageReturn, withoutLast_concat, withoutLast_concat]
  · have hlast : (front ++ [c]).getLast? ≠ some '\r' := by
      simpa using hc
    have hlast' : (front.flatMap utf8EncodeChar ++ utf8EncodeChar c).getLast? ≠
        some carriageReturn := by
      intro h
      have hne : utf8EncodeChar c ≠ [] := String.utf8EncodeChar_ne_nil
      rw [List.getLast?_append_of_ne_nil _ hne] at h
      exact hc ((mem_utf8EncodeChar_iff utf8EncodeChar_carriageReturn).1 (List.mem_of_getLast? h))
    rw [withoutLast, if_neg hlast', withoutLast, if_neg hlast, List.flatMap_append,
      List.flatMap_singleton]

/-- The lines of the form of a text are the forms of its lines. -/
theorem linesOf_flatMap (chars : List Char) :
    linesOf lineFeed carriageReturn (chars.flatMap utf8EncodeChar) =
      (linesOf '\n' '\r' chars).map (·.flatMap utf8EncodeChar) := by
  induction chars using induction_by_lines '\n' with
  | last part hpart =>
      have hfeed : lineFeed ∉ part.flatMap utf8EncodeChar := mt (lineFeed_mem_iff part).1 hpart
      rw [linesOf_of_notMem hfeed, linesOf_of_notMem hpart]
      by_cases hempty : part = []
      · rw [hempty]
        rfl
      · obtain ⟨c, rest, rfl⟩ := List.exists_cons_of_ne_nil hempty
        have hne : (c :: rest).flatMap utf8EncodeChar ≠ [] := by
          simp [String.utf8EncodeChar_ne_nil]
        rw [if_neg hne, if_neg hempty, List.map_singleton]
  | more part rest hpart ih =>
      have hfeed : lineFeed ∉ part.flatMap utf8EncodeChar := mt (lineFeed_mem_iff part).1 hpart
      have hsplit : (part ++ '\n' :: rest).flatMap utf8EncodeChar =
          part.flatMap utf8EncodeChar ++ lineFeed :: rest.flatMap utf8EncodeChar := by
        rw [List.flatMap_append, List.flatMap_cons, utf8EncodeChar_lineFeed,
          List.singleton_append]
      rw [hsplit, linesOf_append_cons hfeed, linesOf_append_cons hpart, ih, withoutLast_flatMap,
        List.map_cons]

theorem isText_withoutLast (line : Bytes) :
    IsText (withoutLast carriageReturn line) ↔ IsText line := by
  unfold withoutLast
  split
  next hlast =>
    obtain ⟨front, rfl⟩ := List.getLast?_eq_some_iff.1 hlast
    rw [List.dropLast_concat, isText_append_ascii utf8EncodeChar_carriageReturn]
    exact (and_iff_left isText_nil).symm
  next => rfl

/-- Bytes are the form of a text exactly if all their lines are. -/
theorem isText_iff_lines (bytes : Bytes) :
    IsText bytes ↔ ∀ line ∈ linesOf lineFeed carriageReturn bytes, IsText line := by
  induction bytes using induction_by_lines lineFeed with
  | last part hpart =>
      rw [linesOf_of_notMem hpart]
      by_cases hempty : part = []
      · simp [hempty, isText_nil]
      · simp [hempty]
  | more part rest hpart ih =>
      rw [linesOf_append_cons hpart, List.forall_mem_cons, isText_withoutLast, ← ih]
      exact isText_append_ascii utf8EncodeChar_lineFeed part rest

/-- Decoded one by one, the lines of the form of a text are the lines of the text. -/
theorem map_decode?_linesOf (text : String) :
    (linesOf lineFeed carriageReturn (encode text)).map Utf8.decode? =
      (linesOf '\n' '\r' text.toList).map (some ∘ String.ofList) := by
  rw [encode_eq_flatMap, linesOf_flatMap, List.map_map]
  refine List.map_congr_left fun line _ ↦ ?_
  rw [Function.comp_apply, Function.comp_apply, ← encode_ofList, Utf8.decode?_encode]

/-- A line is turned down for its bytes exactly if they are the form of no text. -/
theorem LineError.ofBytes?_eq_invalidUtf8_iff (line : Bytes) :
    ofBytes? line = some .invalidUtf8 ↔ ¬ IsText line := by
  rw [isText_iff_decode?, not_ne_iff, ofBytes?, Token.ofBytes]
  cases Utf8.decode? line with
  | none => simp
  | some text =>
      have hline := Scan.finish_ne_invalidUtf8 (text.toList.foldl Scan.step Scan.start)
      rw [← Token.ofLine] at hline
      dsimp only
      cases htokens : Token.ofLine text with
      | ok tokens => simp
      | error e =>
          rw [htokens] at hline
          simpa using hline

/-! ## Errors that a stream gives -/

theorem LineSource.readings_ofList (readings : List LineReading) (taken n : Nat) :
    LineSource.readings (Readings.mk readings taken) n = readings.takeD n .endOfInput := by
  induction n generalizing readings taken with
  | zero => rfl
  | succ n ih =>
      rw [List.takeD_succ]
      cases readings with
      | nil => exact congrArg (_ :: ·) (ih [] (taken + 1))
      | cons reading rest => exact congrArg (_ :: ·) (ih rest (taken + 1))

/-- The errors that an answer gives. -/
def Answer.errors : Answer → List LineError
  | .rejected errors => errors
  | _ => []

theorem Conversation.rejected_run (c : Conversation) (queries : List Query) :
    (c.run queries).rejected = c.rejected ++ (c.stream.answers queries).flatMap Answer.errors := by
  induction queries generalizing c with
  | nil => simp [run, TokenStream.answers]
  | cons query queries ih =>
      have hstream : (c.ask query).stream = (c.stream.ask query).2 := by
        cases query <;> rfl
      have hrejected : (c.ask query).rejected = c.rejected ++ (c.stream.ask query).1.errors := by
        cases query with
        | symbol => exact (List.append_nil _).symm
        | rejected => rfl
        | failure => exact (List.append_nil _).symm
      have hrest : ((c.ask query).run queries).rejected = (c.ask query).rejected ++
          ((c.ask query).stream.answers queries).flatMap Answer.errors := ih (c.ask query)
      rw [hstream, hrejected, List.append_assoc] at hrest
      rw [TokenStream.answers, List.flatMap_cons]
      exact hrest

theorem Conversation.mem_rejected_run_iff (readings : List LineReading) (queries : List Query)
    (e : LineError) :
    e ∈ ((begin readings).run queries).rejected ↔
      ∃ errors, Answer.rejected errors ∈
        (TokenStream.ofSource (Readings.ofList readings)).answers queries ∧ e ∈ errors := by
  have hgiven : ((begin readings).run queries).rejected =
      ((TokenStream.ofSource (Readings.ofList readings)).answers queries).flatMap
        Answer.errors := rejected_run _ queries
  rw [hgiven, List.mem_flatMap]
  constructor
  · rintro ⟨answer, hanswer, he⟩
    cases answer with
    | rejected errors => exact ⟨errors, hanswer, he⟩
    | symbol x => cases he
    | failure cause => cases he
  · rintro ⟨errors, hanswer, he⟩
    exact ⟨.rejected errors, hanswer, he⟩

/-- The errors that a stream over lines can be brought to give are those of the lines. -/
theorem TokenStream.exists_answers_iff (lines : List Bytes) (e : LineError) :
    (∃ queries errors, Answer.rejected errors ∈
        (ofSource (Readings.ofList (lines.map .line))).answers queries ∧ e ∈ errors) ↔
      e ∈ lines.filterMap LineError.ofBytes? := by
  let readings : List LineReading := lines.map .line
  have hlines : LineReading.leadingLines readings = lines := by
    simpa [LineReading.leadingLines] using LineReading.leadingLines_append lines []
  have hstep (queries : List Query) :
      Conversation.InStep readings ((Conversation.begin readings).run queries) :=
    .run (.inl ⟨[], readings, Conversation.underway_begin readings⟩) queries
  simp only [← Conversation.mem_rejected_run_iff]
  constructor
  · rintro ⟨queries, he⟩
    have herrors := (hstep queries).rejected_eq
    rw [hlines] at herrors
    obtain ⟨line, hline, herror⟩ := List.mem_filterMap.1 (herrors ▸ List.mem_append_left _ he)
    exact List.mem_filterMap.2 ⟨line, List.mem_of_mem_take hline, herror⟩
  · intro he
    -- One symbol more than the lines have brings the stream to the end of the input.
    let queries : List Query :=
      List.replicate ((lines.flatMap Symbol.ofBytes).length + 1) .symbol
    let c := (Conversation.begin readings).run queries
    have hlength : c.symbols.length = (lines.flatMap Symbol.ofBytes).length + 1 := by
      rw [Conversation.length_symbols_run, List.count_replicate_self]
      exact Nat.zero_add _
    have htaken : lines.length < c.taken := by
      rw [(hstep queries).lt_taken_iff, hlines, List.take_length, hlength]
      exact ⟨Nat.le_refl _, Nat.lt_succ_self _⟩
    have herrors : (c.ask .rejected).rejected = lines.filterMap LineError.ofBytes? := by
      have hall := (hstep queries).rejected_eq
      rw [hlines, List.take_of_length_le htaken.le] at hall
      exact hall
    refine ⟨queries ++ [.rejected], ?_⟩
    have hrun : (Conversation.begin readings).run (queries ++ [.rejected]) = c.ask .rejected :=
      List.foldl_concat Conversation.ask _ _ _
    rw [hrun, herrors]
    exact he

/-! ## Bytes that arrive -/

namespace BufferedLines

/-- Bytes that arrive are the form of a text exactly if every line that is read from them is,
and exactly if a stream over them never gives the error of a line that is not; and if they are,
the lines decoded one by one are those of the text. -/
theorem cut_before_decoding {arriving : List ByteReading} (hgoes : ∀ r ∈ arriving, r.GoesOn)
    {capacity : Nat} (hroom : 0 < capacity) :
    let source := ofSource (Arrivals.mk arriving) capacity
    let bytes := arriving.flatMap ByteReading.bytes
    ∃ lines : List Bytes,
      (∀ n, LineSource.readings source n = (lines.map .line).takeD n .endOfInput) ∧
      (IsText bytes ↔ ∀ line ∈ lines, IsText line) ∧
      ((∃ queries errors, Answer.rejected errors ∈ (TokenStream.ofSource source).answers queries ∧
        .invalidUtf8 ∈ errors) ↔ ¬ IsText bytes) ∧
      ∀ text, encode text = bytes →
        lines.map Utf8.decode? =
          (linesOf '\n' '\r' text.toList).map (some ∘ String.ofList) := by
  intro source bytes
  let lines := linesOf lineFeed carriageReturn bytes
  have hreadings (n : Nat) :
      LineSource.readings source n = (lines.map .line).takeD n .endOfInput :=
    (awaits_ofSource hgoes hroom).readings n
  have hlines : IsText bytes ↔ ∀ line ∈ lines, IsText line := isText_iff_lines bytes
  refine ⟨lines, hreadings, hlines, ?_, ?_⟩
  · have hreads : LineSource.ReadAlike source (Readings.ofList (lines.map .line)) := by
      intro n
      rw [hreadings, Readings.ofList, LineSource.readings_ofList]
      exact LineReading.forall₂_alike_takeD rfl n
    simp only [(TokenStream.alike_ofSource hreads).answers, TokenStream.exists_answers_iff,
      List.mem_filterMap, LineError.ofBytes?_eq_invalidUtf8_iff, hlines, not_forall, exists_prop]
  · rintro text htext
    rw [← map_decode?_linesOf, htext]

/-- A character of three bytes comes in three pieces and is read with room for one byte.  One
that is cut short by a line feed is not made whole by the byte behind it. -/
theorem cut_before_decoding_torn :
    let arriving : List ByteReading :=
      [.data [226], .interrupted, .data [130], .data [172, 13], .data (encode "\nb")]
    let broken : List ByteReading := [.data [226, 130, 10], .data [172], .data (encode "\nc")]
    ((∀ r ∈ arriving, r.GoesOn) ∧ (∀ r ∈ broken, r.GoesOn) ∧ 0 < 1) ∧
      (∃ lines : List Bytes, lines.map Utf8.decode? = [some "€", some "b"] ∧
        ∀ n, LineSource.readings (ofSource (Arrivals.mk arriving) 1) n =
          (lines.map .line).takeD n .endOfInput) ∧
      ∃ queries errors, Answer.rejected errors ∈
          (TokenStream.ofSource (ofSource (Arrivals.mk broken) 1)).answers queries ∧
        .invalidUtf8 ∈ errors := by
  intro arriving broken
  have hgoes : ∀ r ∈ arriving, r.GoesOn := by
    decide +kernel
  have hgoes' : ∀ r ∈ broken, r.GoesOn := by
    decide +kernel
  refine ⟨⟨hgoes, hgoes', by decide⟩, ?_, ?_⟩
  · obtain ⟨lines, hreadings, -, -, hdecoded⟩ := cut_before_decoding hgoes Nat.one_pos
    have htext : encode "€\r\nb" = arriving.flatMap ByteReading.bytes := by
      decide +kernel
    refine ⟨lines, ?_, hreadings⟩
    rw [hdecoded _ htext]
    decide +kernel
  · obtain ⟨-, -, -, hrejected, -⟩ := cut_before_decoding hgoes' Nat.one_pos
    have hbroken : ¬ IsText (broken.flatMap ByteReading.bytes) := by
      rw [isText_iff_decode?, not_ne_iff]
      cbv
    exact hrejected.2 hbroken

end BufferedLines

end PipeShell

import Mathlib
import PipeShell.Proofs.ArrivingLines
import PipeShell.Proofs.Separators
import PipeShell.Proofs.StreamAnswers

/-!
# Line feeds with and without carriage returns

A carriage return at the end of a line is a blank like any other: it changes neither the
tokens of the line nor the reason why it has none, whether it stands behind a word, in an open
quote or behind bytes that are no text.  So a script in which every line feed has a carriage
return in front of it is read as the same script without them, whatever its lines end with.
-/

namespace PipeShell

universe u v

/-! ## A carriage return behind bytes that are to be text -/

namespace Utf8

/-- Inside a character no byte of the ASCII range can follow. -/
def State.BeyondAscii : State → Prop
  | .inside _ char => 0x80 ≤ char.least
  | _ => True

theorem State.BeyondAscii.ite {p : Prop} [Decidable p] {s t : State} (hs : s.BeyondAscii)
    (ht : t.BeyondAscii) : (if p then s else t).BeyondAscii := by
  split
  · exact hs
  · exact ht

theorem State.beyondAscii_lead (text : String) (b : UInt8) : (lead text b).BeyondAscii := by
  unfold lead
  repeat' apply BeyondAscii.ite
  all_goals simp only [BeyondAscii]
  all_goals decide

theorem State.beyondAscii_follow (text : String) (char : Unfinished) (b : UInt8) :
    (follow text char b).BeyondAscii := by
  unfold follow
  refine .ite (.ite trivial ?_) trivial
  exact UInt8.le_refl _

theorem State.beyondAscii_step (s : State) (b : UInt8) : (s.step b).BeyondAscii := by
  cases s with
  | between text => exact beyondAscii_lead text b
  | inside text char => exact beyondAscii_follow text char b
  | broken => trivial

theorem beyondAscii_foldl_step (bytes : Bytes) :
    (bytes.foldl State.step (.between "")).BeyondAscii := by
  obtain rfl | ⟨front, b, rfl⟩ := List.eq_nil_or_concat bytes
  · trivial
  · rw [List.concat_eq_append, List.foldl_append]
    exact State.beyondAscii_step _ b

/-- A byte of the ASCII range adds its character to a text, and completes nothing. -/
theorem decode?_concat_ascii (bytes : Bytes) {b : UInt8} (hb : b < 0x80) :
    decode? (bytes ++ [b]) = (decode? bytes).map (·.push (Char.ofNat b.toNat)) := by
  have hbeyond := beyondAscii_foldl_step bytes
  rw [decode?, decode?, List.foldl_append, List.foldl_cons, List.foldl_nil]
  generalize bytes.foldl State.step (.between "") = s at hbeyond
  cases s with
  | between text => simp [State.step, State.lead, hb]
  | inside text char =>
      have hout : ¬ char.least ≤ b := fun hle ↦ UInt8.not_le.2 hb (UInt8.le_trans hbeyond hle)
      simp [State.step, State.follow, hout]
  | broken => rfl

end Utf8

theorem Token.ofBytes_concat_return (line : Bytes) :
    Token.ofBytes (line ++ [carriageReturn]) = Token.ofBytes line := by
  have hdecode : Utf8.decode? (line ++ [carriageReturn]) =
      (Utf8.decode? line).map (·.push '\r') := Utf8.decode?_concat_ascii line (by decide)
  have hblank : IsBlank '\r' := .inr (.inr (.inl rfl))
  rw [ofBytes, ofBytes, hdecode]
  cases Utf8.decode? line with
  | none => rfl
  | some text =>
      rw [Option.map_some, String.push_eq_append]
      exact ofLine_concat_blank text hblank

/-- Whether a line gives up a carriage return makes no difference to its tokens. -/
theorem Token.ofBytes_withoutLast (line : Bytes) :
    Token.ofBytes (withoutLast carriageReturn line) = Token.ofBytes line := by
  unfold withoutLast
  split
  next hlast =>
    obtain ⟨front, rfl⟩ := List.getLast?_eq_some_iff.1 hlast
    rw [List.dropLast_concat, ofBytes_concat_return]
  next => rfl

theorem withoutLast_concat {α : Type u} [DecidableEq α] (a : α) (l : List α) :
    withoutLast a (l ++ [a]) = l := by
  rw [withoutLast, List.getLast?_concat, if_pos rfl, List.dropLast_concat]

/-- The bytes with a carriage return in front of every line feed. -/
def withReturns (bytes : Bytes) : Bytes :=
  bytes.flatMap fun b ↦ if b = lineFeed then [carriageReturn, lineFeed] else [b]

theorem withReturns_feed (rest : Bytes) :
    withReturns (lineFeed :: rest) = carriageReturn :: lineFeed :: withReturns rest := rfl

theorem withReturns_of_ne {b : UInt8} (h : b ≠ lineFeed) (rest : Bytes) :
    withReturns (b :: rest) = b :: withReturns rest := by
  simp [withReturns, h]

/-- Line by line, what is read is the same. -/
theorem map_ofBytes_linesOf_withReturns {part : Bytes} (h : lineFeed ∉ part) (rest : Bytes) :
    (linesOf lineFeed carriageReturn (part ++ withReturns rest)).map Token.ofBytes =
      (linesOf lineFeed carriageReturn (part ++ rest)).map Token.ofBytes := by
  induction rest generalizing part with
  | nil => rfl
  | cons b rest ih =>
      by_cases hb : b = lineFeed
      · subst hb
        have hreturn : lineFeed ∉ part ++ [carriageReturn] := by
          simpa [h] using (by decide : lineFeed ≠ carriageReturn)
        have hfront : part ++ withReturns (lineFeed :: rest) =
            (part ++ [carriageReturn]) ++ lineFeed :: withReturns rest := by
          rw [withReturns_feed, List.append_assoc, List.singleton_append]
        have hrest := ih List.not_mem_nil
        rw [hfront, linesOf_append_cons hreturn, linesOf_append_cons h, withoutLast_concat,
          List.map_cons, List.map_cons, Token.ofBytes_withoutLast]
        exact congrArg _ hrest
      · have hnext : lineFeed ∉ part ++ [b] := by
          simpa [h] using Ne.symm hb
        have hrest := ih hnext
        rw [List.append_assoc, List.append_assoc] at hrest
        rw [withReturns_of_ne hb]
        exact hrest

/-! ## Streams over sources that read alike -/

/-- Two readings of which the same is made. -/
inductive LineReading.Alike : LineReading → LineReading → Prop where
  | line {bytes bytes' : Bytes} (htokens : Token.ofBytes bytes = Token.ofBytes bytes') :
      Alike (.line bytes) (.line bytes')
  | endOfInput : Alike .endOfInput .endOfInput
  | failure (cause : Failure) : Alike (.failure cause) (.failure cause)

/-- Lines with the same tokens, and then the end of the input, read alike. -/
theorem LineReading.forall₂_alike_takeD {lines lines' : List Bytes}
    (h : lines.map Token.ofBytes = lines'.map Token.ofBytes) (n : Nat) :
    ((lines.map line).takeD n .endOfInput).Forall₂ Alike
      ((lines'.map line).takeD n .endOfInput) := by
  induction n generalizing lines lines' with
  | zero => exact .nil
  | succ n ih =>
      rw [List.takeD_succ, List.takeD_succ]
      cases lines with
      | nil =>
          obtain rfl : lines' = [] := List.map_eq_nil_iff.1 h.symm
          exact .cons .endOfInput (@ih [] [] rfl)
      | cons bytes lines =>
          obtain ⟨bytes', lines', rfl, htokens, hrest⟩ := List.map_eq_cons_iff.1 h.symm
          exact .cons (.line htokens.symm) (ih hrest.symm)

namespace LineSource

variable {σ : Type u} {τ : Type v} [LineSource σ] [LineSource τ] {s : σ} {t : τ}

/-- However often the two sources are read, the same is made of what they give. -/
def ReadAlike (s : σ) (t : τ) : Prop :=
  ∀ n, (readings s n).Forall₂ LineReading.Alike (readings t n)

theorem ReadAlike.first (h : ReadAlike s t) : (readLine s).1.Alike (readLine t).1 :=
  (List.forall₂_cons.1 (h 1)).1

theorem ReadAlike.later (h : ReadAlike s t) : ReadAlike (readLine s).2 (readLine t).2 :=
  fun n ↦ (List.forall₂_cons.1 (h (n + 1))).2

end LineSource

/-- What a stream says when it is asked. -/
inductive Answer where
  | symbol (x : Symbol)
  | rejected (errors : List LineError)
  | failure (cause : Option Failure)
  deriving DecidableEq, Repr

namespace TokenStream

variable {σ : Type u} {τ : Type v} [LineSource σ] [LineSource τ]

def ask (s : TokenStream σ) : Query → Answer × TokenStream σ
  | .symbol => (.symbol s.next.1, s.next.2)
  | .rejected => (.rejected s.takeRejected.1, s.takeRejected.2)
  | .failure => (.failure s.takeFailure.1, s.takeFailure.2)

/-- What a stream says when it is asked one thing after another. -/
def answers (s : TokenStream σ) : List Query → List Answer
  | [] => []
  | query :: rest => (s.ask query).1 :: answers (s.ask query).2 rest

/-- The streams stand at the same place, and the same will be made of all that their sources
are still to give. -/
structure Alike (s : TokenStream σ) (t : TokenStream τ) : Prop where
  line : s.line = t.line
  rejected : s.rejected = t.rejected
  finished : s.finished = t.finished
  failure : s.failure = t.failure
  source : LineSource.ReadAlike s.source t.source

theorem alike_ofSource {source : σ} {source' : τ} (h : LineSource.ReadAlike source source') :
    Alike (ofSource source) (ofSource source') :=
  ⟨rfl, rfl, rfl, rfl, h⟩

variable {s : TokenStream σ} {t : TokenStream τ}

theorem Alike.load (h : Alike s t) : Alike s.load t.load := by
  have hfirst := h.source.first
  have hlater := h.source.later
  unfold TokenStream.load
  generalize LineSource.readLine s.source = read, LineSource.readLine t.source = read'
    at hfirst hlater ⊢
  obtain ⟨reading, source⟩ := read
  obtain ⟨reading', source'⟩ := read'
  cases hfirst with
  | line htokens =>
      dsimp only
      rw [htokens]
      split
      · exact ⟨rfl, h.rejected, h.finished, h.failure, hlater⟩
      · exact ⟨rfl, by rw [h.rejected], h.finished, h.failure, hlater⟩
  | endOfInput => exact ⟨h.line, h.rejected, rfl, h.failure, hlater⟩
  | failure cause => exact ⟨h.line, h.rejected, rfl, rfl, hlater⟩

theorem Alike.ready (h : Alike s t) : Alike s.ready t.ready := by
  unfold TokenStream.ready
  rw [h.line, h.finished]
  split
  · exact h.load
  · exact h

theorem Alike.give (h : Alike s t) : s.give.1 = t.give.1 ∧ Alike s.give.2 t.give.2 := by
  unfold TokenStream.give
  rw [h.line]
  split
  · exact ⟨rfl, rfl, h.rejected, h.finished, h.failure, h.source⟩
  · exact ⟨rfl, rfl, h.rejected, h.finished, h.failure, h.source⟩
  · exact ⟨rfl, h⟩

/-- Asked for anything, streams that stand alike say the same and stand alike again. -/
theorem Alike.ask (h : Alike s t) (query : Query) :
    (s.ask query).1 = (t.ask query).1 ∧ Alike (s.ask query).2 (t.ask query).2 := by
  cases query with
  | symbol =>
      obtain ⟨hsymbol, hafter⟩ := h.ready.give
      exact ⟨congrArg Answer.symbol hsymbol, hafter⟩
  | rejected =>
      refine ⟨?_, h.line, rfl, h.finished, h.failure, h.source⟩
      exact congrArg (fun errors ↦ Answer.rejected errors.toList) h.rejected
  | failure =>
      refine ⟨?_, h.line, h.rejected, h.finished, rfl, h.source⟩
      exact congrArg Answer.failure h.failure

theorem Alike.answers (h : Alike s t) (queries : List Query) :
    s.answers queries = t.answers queries := by
  induction queries generalizing s t with
  | nil => rfl
  | cons query rest ih =>
      obtain ⟨hanswer, hafter⟩ := h.ask query
      rw [TokenStream.answers, TokenStream.answers, hanswer, ih hafter]

/-- A stream over bytes in which every line feed has a carriage return in front of it says
what a stream over the bytes without them says, in whatever order the two are asked for their
symbols and the errors of their lines, and in whatever pieces their bytes arrive. -/
theorem answers_withReturns {arriving arriving' : List ByteReading}
    (hgoes : ∀ r ∈ arriving, r.GoesOn) (hgoes' : ∀ r ∈ arriving', r.GoesOn)
    (hbytes : arriving'.flatMap ByteReading.bytes =
      withReturns (arriving.flatMap ByteReading.bytes))
    {capacity capacity' : Nat} (hroom : 0 < capacity) (hroom' : 0 < capacity')
    (queries : List Query) :
    (ofSource (BufferedLines.ofSource (Arrivals.mk arriving') capacity')).answers queries =
      (ofSource (BufferedLines.ofSource (Arrivals.mk arriving) capacity)).answers queries := by
  have hawaits := BufferedLines.awaits_ofSource hgoes hroom
  have hawaits' := BufferedLines.awaits_ofSource hgoes' hroom'
  rw [hbytes] at hawaits'
  have hlines := map_ofBytes_linesOf_withReturns List.not_mem_nil
    (arriving.flatMap ByteReading.bytes)
  have hreads : LineSource.ReadAlike (BufferedLines.ofSource (Arrivals.mk arriving') capacity')
      (BufferedLines.ofSource (Arrivals.mk arriving) capacity) := by
    intro n
    rw [hawaits.readings, hawaits'.readings]
    exact LineReading.forall₂_alike_takeD hlines n
  exact (alike_ofSource hreads).answers queries

/-- Behind a byte that is no text, in an open quote and behind a return that was there before,
the returns come with the bytes of other pieces; the last line has no line feed. -/
theorem answers_withReturns_torn :
    let arriving : List ByteReading :=
      [.data [255, 10], .interrupted, .data (encode "'\na\r"), .data (encode "\n|b\r")]
    let arriving' : List ByteReading :=
      [.data [255, 13], .data (encode "\n'\r\na\r"), .interrupted, .data (encode "\r\n|b\r")]
    let queries : List Query := [.symbol, .symbol, .rejected, .symbol, .symbol, .symbol, .symbol]
    ((∀ r ∈ arriving, r.GoesOn) ∧ (∀ r ∈ arriving', r.GoesOn) ∧
        arriving'.flatMap ByteReading.bytes =
          withReturns (arriving.flatMap ByteReading.bytes) ∧ 0 < 8192 ∧ 0 < 1) ∧
      (ofSource (BufferedLines.ofSource (Arrivals.mk arriving') 1)).answers queries =
        [.symbol (.lineEnd .newline), .symbol (.lineEnd .newline),
          .rejected [.invalidUtf8, .unfinishedQuote], .symbol (.token (.word "a")),
          .symbol (.lineEnd .newline), .symbol (.token .pipe), .symbol (.token (.word "b"))] := by
  intro arriving arriving' queries
  have hgoes : ∀ r ∈ arriving, r.GoesOn := by
    decide +kernel
  have hgoes' : ∀ r ∈ arriving', r.GoesOn := by
    decide +kernel
  have hbytes : arriving'.flatMap ByteReading.bytes =
      withReturns (arriving.flatMap ByteReading.bytes) := by
    decide +kernel
  refine ⟨⟨hgoes, hgoes', hbytes, by decide, by decide⟩, ?_⟩
  have hsame : (ofSource (BufferedLines.ofSource (Arrivals.mk arriving') 1)).answers queries =
      (ofSource (BufferedLines.ofSource (Arrivals.mk arriving) 8192)).answers queries :=
    answers_withReturns hgoes hgoes' hbytes (by decide) (by decide) queries
  rw [hsame]
  cbv

end TokenStream

end PipeShell

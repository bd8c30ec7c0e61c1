import Mathlib.Data.List.DropRight
import PipeShell.Proofs.TokenByToken

/-!
# What a stream answers, in whatever order it is asked

A stream of tokens can be asked for its next symbol, for the errors it has recorded and for
the failure of its source, and the three may be mixed in any way.  The symbols are those of
the lines in front of the first reading that is none, and after them the end of the input
for ever; a line is read when all symbols before it have been handed out and one more is
asked for; and every error and the failure are given once.
-/

namespace PipeShell

/-- The symbols of a line that arrives as bytes; one that gives no tokens is empty. -/
def Symbol.ofBytes (bytes : Bytes) : List Symbol :=
  match Token.ofBytes bytes with
  | .ok tokens => Symbol.ofLine tokens
  | .error _ => Symbol.ofLine []

/-- Why a line that arrives as bytes gives no tokens, if it gives none. -/
def LineError.ofBytes? (bytes : Bytes) : Option LineError :=
  match Token.ofBytes bytes with
  | .ok _ => none
  | .error e => some e

namespace LineReading

/-- The lines in front of the first reading that is none. -/
def leadingLines : List LineReading → List Bytes
  | .line bytes :: rest => bytes :: leadingLines rest
  | _ => []

/-- The failure behind these lines, if they do not end otherwise. -/
def failure? : List LineReading → Option Failure
  | .line _ :: rest => failure? rest
  | .failure cause :: _ => some cause
  | _ => none

theorem leadingLines_append (front : List Bytes) (rest : List LineReading) :
    leadingLines (front.map .line ++ rest) = front ++ leadingLines rest := by
  induction front with
  | nil => rfl
  | cons bytes front ih => exact congrArg (bytes :: ·) ih

theorem failure?_append (front : List Bytes) (rest : List LineReading) :
    failure? (front.map .line ++ rest) = failure? rest := by
  induction front with
  | nil => rfl
  | cons bytes front ih => exact ih

end LineReading

/-- What a stream may be asked for. -/
inductive Query where
  | symbol
  | rejected
  | failure
  deriving DecidableEq, Repr

/-- A stream over readings laid down in advance, and all that it has answered. -/
structure Conversation where
  stream : TokenStream Readings
  symbols : List Symbol
  rejected : List LineError
  failures : List Failure

namespace Conversation

def begin (readings : List LineReading) : Conversation :=
  ⟨.ofSource (.ofList readings), [], [], []⟩

def ask (c : Conversation) : Query → Conversation
  | .symbol => { c with stream := c.stream.next.2, symbols := c.symbols ++ [c.stream.next.1] }
  | .rejected =>
      { c with
        stream := c.stream.takeRejected.2
        rejected := c.rejected ++ c.stream.takeRejected.1 }
  | .failure =>
      { c with
        stream := c.stream.takeFailure.2
        failures := c.failures ++ c.stream.takeFailure.1.toList }

def run (c : Conversation) (queries : List Query) : Conversation :=
  queries.foldl ask c

/-- The number of readings that have been taken from the source. -/
def taken (c : Conversation) : Nat :=
  c.stream.source.taken

/-- The symbols left of the line under way. -/
def left (line : Option (List Token)) : List Symbol :=
  line.elim [] Symbol.ofLine

/-- The first symbol that is left is the next one to be handed out. -/
theorem give_of_line {s : TokenStream Readings} {tokens : List Token}
    (h : s.line = some tokens) :
    ∃ x line, s.give = (x, { s with line }) ∧ left (some tokens) = x :: left line := by
  cases tokens with
  | nil =>
      refine ⟨.lineEnd .newline, none, ?_, rfl⟩
      rw [TokenStream.give, h]
  | cons t tokens =>
      refine ⟨.token t, some tokens, ?_, rfl⟩
      rw [TokenStream.give, h]

/-! ## Where a conversation stands -/

/-- The source has given these lines and nothing else.  All their symbols but those of the
line under way have been handed out, and of the last line at least one has been. -/
structure Underway (readings : List LineReading) (front : List Bytes)
    (rest : List LineReading) (c : Conversation) : Prop where
  split : readings = front.map .line ++ rest
  source : c.stream.source = ⟨rest, front.length⟩
  finished : c.stream.finished = false
  symbols : c.symbols ++ left c.stream.line = front.flatMap Symbol.ofBytes
  begun : ∀ before last, front = before ++ [last] →
    (before.flatMap Symbol.ofBytes).length < c.symbols.length
  rejected : c.rejected ++ c.stream.rejected.toList = front.filterMap LineError.ofBytes?
  failures : c.failures ++ c.stream.failure.toList = []

/-- The source has ended behind its leading lines, and the end of the input has been handed
out at least once. -/
structure Over (readings : List LineReading) (c : Conversation) : Prop where
  taken : c.taken = (LineReading.leadingLines readings).length + 1
  finished : c.stream.finished = true
  line : c.stream.line = none
  symbols : ∃ ends, c.symbols = (LineReading.leadingLines readings).flatMap Symbol.ofBytes ++
    List.replicate (ends + 1) (.lineEnd .endOfInput)
  rejected : c.rejected ++ c.stream.rejected.toList =
    (LineReading.leadingLines readings).filterMap LineError.ofBytes?
  failures : c.failures ++ c.stream.failure.toList = (LineReading.failure? readings).toList

variable {readings rest : List LineReading} {front : List Bytes} {c : Conversation}

theorem underway_begin (readings : List LineReading) :
    Underway readings [] readings (begin readings) := by
  refine ⟨rfl, rfl, rfl, rfl, ?_, rfl, rfl⟩
  intro before last h
  simp at h

/-- A symbol of the line under way is handed out without a reading. -/
theorem Underway.ask_symbol_of_line (h : Underway readings front rest c) {tokens : List Token}
    (hline : c.stream.line = some tokens) : Underway readings front rest (c.ask .symbol) := by
  obtain ⟨x, line, hgive, hleft⟩ := give_of_line hline
  have hnext : c.stream.next = (x, { c.stream with line }) := by
    rw [TokenStream.next, TokenStream.ready_of_line hline, hgive]
  have hask : c.ask .symbol =
      { c with stream := { c.stream with line }, symbols := c.symbols ++ [x] } := by
    rw [ask, hnext]
  rw [hask]
  refine ⟨h.split, h.source, h.finished, ?_, ?_, h.rejected, h.failures⟩
  · have hsymbols := h.symbols
    rw [hline, hleft] at hsymbols
    simpa using hsymbols
  · intro before last hfront
    have hbegun := h.begun before last hfront
    simp only [List.length_append, List.length_singleton]
    omega

/-- When the line under way has been handed out, the next one is read. -/
theorem Underway.ask_symbol_of_next (h : Underway readings front rest c)
    (hline : c.stream.line = none) {bytes : Bytes} {behind : List LineReading}
    (hrest : rest = .line bytes :: behind) :
    Underway readings (front ++ [bytes]) behind (c.ask .symbol) := by
  have hready : ∃ tokens rejected, c.stream.ready =
      { c.stream with source := ⟨behind, front.length + 1⟩, line := some tokens, rejected } ∧
      left (some tokens) = Symbol.ofBytes bytes ∧
      rejected.toList = c.stream.rejected.toList ++ (LineError.ofBytes? bytes).toList := by
    rw [TokenStream.ready_of_between hline h.finished, TokenStream.load, h.source, hrest]
    simp only [LineSource.readLine, Readings.readLine, Symbol.ofBytes, LineError.ofBytes?]
    cases htokens : Token.ofBytes bytes with
    | ok tokens => exact ⟨tokens, c.stream.rejected, rfl, rfl, by simp⟩
    | error e => exact ⟨[], c.stream.rejected.push e, rfl, rfl, by simp⟩
  obtain ⟨tokens, rejected, hready, htokens, hrejected⟩ := hready
  obtain ⟨x, line, hgive, hleft⟩ := give_of_line (s := c.stream.ready) (by rw [hready])
  have hask : c.ask .symbol =
      { c with
        stream := { c.stream with source := ⟨behind, front.length + 1⟩, line, rejected }
        symbols := c.symbols ++ [x] } := by
    rw [ask, TokenStream.next, hgive, hready]
  have hhanded : c.symbols = front.flatMap Symbol.ofBytes := by
    have hsymbols := h.symbols
    rw [hline] at hsymbols
    simpa [left] using hsymbols
  rw [hask]
  refine ⟨?_, ?_, h.finished, ?_, ?_, ?_, h.failures⟩
  · rw [h.split, hrest]
    simp
  · simp
  · rw [hleft] at htokens
    simp [hhanded, ← htokens]
  · intro before last hfront
    obtain ⟨rfl, -⟩ := List.append_inj' hfront rfl
    simp [hhanded]
  · rw [hrejected, ← List.append_assoc, h.rejected, List.filterMap_append]
    cases herror : LineError.ofBytes? bytes <;> simp [herror]

/-- When the line under way has been handed out and no other follows, the source ends. -/
theorem Underway.ask_symbol_of_end (h : Underway readings front rest c)
    (hline : c.stream.line = none) (hend : LineReading.leadingLines rest = []) :
    Over readings (c.ask .symbol) := by
  have hready : ∃ remaining failure, c.stream.ready =
      { c.stream with
        source := ⟨remaining, front.length + 1⟩, line := none, finished := true, failure } ∧
      failure.toList = c.stream.failure.toList ++ (LineReading.failure? rest).toList := by
    have hnone : c.stream.failure = none := by
      have hfailures := h.failures
      simp_all
    rw [TokenStream.ready_of_between hline h.finished, TokenStream.load, h.source, ← hline]
    cases rest with
    | nil => exact ⟨[], c.stream.failure, rfl, by simp [LineReading.failure?]⟩
    | cons reading behind =>
        cases reading with
        | line bytes => simp [LineReading.leadingLines] at hend
        | endOfInput => exact ⟨behind, c.stream.failure, rfl, by simp [LineReading.failure?]⟩
        | failure cause =>
            exact ⟨behind, some cause, rfl, by simp [LineReading.failure?, hnone]⟩
  obtain ⟨remaining, failure, hready, hfailure⟩ := hready
  have hask : c.ask .symbol =
      { c with
        stream := { c.stream with
          source := ⟨remaining, front.length + 1⟩, line := none, finished := true, failure }
        symbols := c.symbols ++ [.lineEnd .endOfInput] } := by
    rw [ask, TokenStream.next, hready, TokenStream.give]
  have hlines : LineReading.leadingLines readings = front := by
    rw [h.split, LineReading.leadingLines_append, hend, List.append_nil]
  have hhanded : c.symbols = front.flatMap Symbol.ofBytes := by
    have hsymbols := h.symbols
    rw [hline] at hsymbols
    simpa [left] using hsymbols
  rw [hask]
  refine ⟨?_, rfl, rfl, ⟨0, ?_⟩, ?_, ?_⟩
  · rw [hlines]
    rfl
  · rw [hlines, hhanded]
    rfl
  · rw [hlines]
    exact h.rejected
  · rw [h.split, LineReading.failure?_append]
    change c.failures ++ failure.toList = _
    rw [hfailure, ← List.append_assoc, h.failures, List.nil_append]

/-- Behind the end nothing is read, and the end of the input is all that is handed out. -/
theorem Over.ask_symbol (h : Over readings c) : Over readings (c.ask .symbol) := by
  have hready : c.stream.ready = c.stream := by
    simp [TokenStream.ready, h.finished]
  have hask : c.ask .symbol = { c with symbols := c.symbols ++ [.lineEnd .endOfInput] } := by
    rw [ask, TokenStream.next, hready, TokenStream.give, h.line]
  obtain ⟨ends, hsymbols⟩ := h.symbols
  rw [hask]
  refine ⟨h.taken, h.finished, h.line, ⟨ends + 1, ?_⟩, h.rejected, h.failures⟩
  rw [hsymbols, List.append_assoc, ← List.replicate_succ']

/-- A conversation is under way behind some lines, or over. -/
def InStep (readings : List LineReading) (c : Conversation) : Prop :=
  (∃ front rest, Underway readings front rest c) ∨ Over readings c

theorem InStep.ask (h : InStep readings c) (query : Query) : InStep readings (c.ask query) := by
  rcases h with ⟨front, rest, h⟩ | h
  · cases query with
    | symbol =>
        cases hline : c.stream.line with
        | some tokens => exact .inl ⟨front, rest, h.ask_symbol_of_line hline⟩
        | none =>
            match rest with
            | .line bytes :: behind =>
                exact .inl ⟨front ++ [bytes], behind, h.ask_symbol_of_next hline rfl⟩
            | [] => exact .inr (h.ask_symbol_of_end hline rfl)
            | .endOfInput :: behind => exact .inr (h.ask_symbol_of_end hline rfl)
            | .failure cause :: behind => exact .inr (h.ask_symbol_of_end hline rfl)
    | rejected =>
        refine .inl ⟨front, rest, h.split, h.source, h.finished, h.symbols, h.begun, ?_, h.failures⟩
        rw [← h.rejected]
        exact List.append_nil _
    | failure =>
        refine .inl ⟨front, rest, h.split, h.source, h.finished, h.symbols, h.begun, h.rejected, ?_⟩
        rw [← h.failures]
        exact List.append_nil _
  · cases query with
    | symbol => exact .inr h.ask_symbol
    | rejected =>
        refine .inr ⟨h.taken, h.finished, h.line, h.symbols, ?_, h.failures⟩
        rw [← h.rejected]
        exact List.append_nil _
    | failure =>
        refine .inr ⟨h.taken, h.finished, h.line, h.symbols, h.rejected, ?_⟩
        rw [← h.failures]
        exact List.append_nil _

theorem InStep.run (h : InStep readings c) (queries : List Query) :
    InStep readings (c.run queries) := by
  induction queries generalizing c with
  | nil => exact h
  | cons query queries ih => exact ih (h.ask query)

theorem length_symbols_run (c : Conversation) (queries : List Query) :
    (c.run queries).symbols.length = c.symbols.length + queries.count .symbol := by
  induction queries generalizing c with
  | nil => rfl
  | cons query queries ih =>
      have hrest := ih (c.ask query)
      cases query with
      | symbol =>
          have hask : (c.ask .symbol).symbols.length = c.symbols.length + 1 :=
            List.length_append
          rw [List.count_cons_self]
          change ((c.ask .symbol).run queries).symbols.length = _
          omega
      | rejected =>
          rw [List.count_cons_of_ne (by decide)]
          exact hrest
      | failure =>
          rw [List.count_cons_of_ne (by decide)]
          exact hrest

/-! ## What has been answered -/

theorem length_flatMap_le {l m : List Bytes} (h : l <+: m) :
    (l.flatMap Symbol.ofBytes).length ≤ (m.flatMap Symbol.ofBytes).length := by
  obtain ⟨rest, rfl⟩ := h
  rw [List.flatMap_append, List.length_append]
  exact Nat.le_add_right _ _

theorem eq_takeD {l m : List Symbol} {ends : Nat} {x : Symbol}
    (h : l <+: m ++ List.replicate ends x) : l = m.takeD l.length x := by
  induction l generalizing m ends with
  | nil => rfl
  | cons a l ih =>
      cases m with
      | nil =>
          rw [List.nil_append] at h
          have hall : a :: l = List.replicate (a :: l).length x :=
            List.eq_replicate_of_mem fun b hb ↦ List.eq_of_mem_replicate (h.subset hb)
          rw [List.takeD_nil]
          exact hall
      | cons b m =>
          obtain ⟨rfl, hrest⟩ := List.cons_prefix_cons.1 h
          have htail : l = m.takeD l.length x := ih hrest
          rw [List.length_cons, List.takeD_succ]
          exact congrArg (a :: ·) htail

theorem Underway.leadingLines_eq (h : Underway readings front rest c) :
    LineReading.leadingLines readings = front ++ LineReading.leadingLines rest := by
  rw [h.split, LineReading.leadingLines_append]

theorem Underway.taken_eq (h : Underway readings front rest c) : c.taken = front.length := by
  rw [taken, h.source]

theorem InStep.symbols_front (h : InStep readings c) :
    ∃ ends, c.symbols <+: (LineReading.leadingLines readings).flatMap Symbol.ofBytes ++
      List.replicate ends (.lineEnd .endOfInput) := by
  rcases h with ⟨front, rest, h⟩ | h
  · refine ⟨0, ?_⟩
    rw [h.leadingLines_eq, List.flatMap_append, ← h.symbols]
    simp [List.append_assoc]
  · obtain ⟨ends, hsymbols⟩ := h.symbols
    exact ⟨ends + 1, hsymbols ▸ List.prefix_rfl⟩

/-- The readings that have been taken are those up to the first one that is no line, as far
as all symbols before them have been handed out and one more. -/
theorem InStep.lt_taken_iff (h : InStep readings c) (j : Nat) :
    j < c.taken ↔ j ≤ (LineReading.leadingLines readings).length ∧
      (((LineReading.leadingLines readings).take j).flatMap Symbol.ofBytes).length <
        c.symbols.length := by
  rcases h with ⟨front, rest, h⟩ | h
  · have hlines := h.leadingLines_eq
    rw [h.taken_eq]
    constructor
    · intro hj
      obtain ⟨before, last, rfl⟩ : ∃ before last, front = before ++ [last] := by
        rcases List.eq_nil_or_concat front with rfl | ⟨before, last, rfl⟩
        · simp at hj
        · exact ⟨before, last, List.concat_eq_append⟩
      have hbefore : j ≤ before.length := by
        simpa [Nat.lt_succ_iff] using hj
      have hfront : (LineReading.leadingLines readings).take j <+: before := by
        rw [hlines, List.append_assoc, List.take_append_of_le_length hbefore]
        exact List.take_prefix j before
      refine ⟨?_, (length_flatMap_le hfront).trans_lt (h.begun before last rfl)⟩
      rw [hlines, List.length_append]
      omega
    · rintro ⟨-, hless⟩
      by_contra hj
      have hfront : front <+: (LineReading.leadingLines readings).take j := by
        rw [hlines, List.take_append, List.take_of_length_le (by omega)]
        exact List.prefix_append _ _
      have hhanded : c.symbols.length ≤ (front.flatMap Symbol.ofBytes).length := by
        rw [← h.symbols, List.length_append]
        exact Nat.le_add_right _ _
      have hle := length_flatMap_le hfront
      omega
  · obtain ⟨ends, hsymbols⟩ := h.symbols
    have hle := length_flatMap_le
      (List.take_prefix j (LineReading.leadingLines readings))
    rw [h.taken, hsymbols, List.length_append, List.length_replicate]
    omega

theorem InStep.rejected_eq (h : InStep readings c) :
    c.rejected ++ c.stream.rejected.toList =
      ((LineReading.leadingLines readings).take c.taken).filterMap LineError.ofBytes? := by
  rcases h with ⟨front, rest, h⟩ | h
  · rw [h.rejected, h.leadingLines_eq, h.taken_eq, List.take_left]
  · rw [h.rejected, h.taken, List.take_of_length_le (Nat.le_succ _)]

theorem InStep.failures_eq (h : InStep readings c) :
    c.failures ++ c.stream.failure.toList =
      if (LineReading.leadingLines readings).length < c.taken then
        (LineReading.failure? readings).toList
      else [] := by
  rcases h with ⟨front, rest, h⟩ | h
  · have hless : ¬ (LineReading.leadingLines readings).length < c.taken := by
      rw [h.leadingLines_eq, h.taken_eq, List.length_append]
      omega
    rw [h.failures, if_neg hless]
  · rw [h.failures, if_pos (by rw [h.taken]; exact Nat.lt_succ_self _)]

/-- However its three questions are mixed, a stream hands out the symbols of the lines up to
the first reading that is none and then the end of the input for ever; it takes a reading
when all symbols before it have been handed out and another is asked for, and none behind
the first that is no line; of the lines taken it gives every error once, in order; and it
gives the failure of its source once, as soon as that has been met. -/
theorem answers_follow_readings (readings : List LineReading) (queries : List Query) :
    let c := (begin readings).run queries
    let lines := LineReading.leadingLines readings
    let errors := (lines.take c.taken).filterMap LineError.ofBytes?
    let failures := if lines.length < c.taken then (LineReading.failure? readings).toList else []
    c.symbols = (lines.flatMap Symbol.ofBytes).takeD (queries.count .symbol)
        (.lineEnd .endOfInput) ∧
      (∀ j, j < c.taken ↔ j ≤ lines.length ∧
        ((lines.take j).flatMap Symbol.ofBytes).length < queries.count .symbol) ∧
      (c.rejected ++ c.stream.rejected.toList = errors ∧ (c.ask .rejected).rejected = errors) ∧
      c.failures ++ c.stream.failure.toList = failures ∧ (c.ask .failure).failures = failures := by
  intro c lines errors failures
  have hstep : InStep readings c :=
    InStep.run (.inl ⟨[], readings, underway_begin readings⟩) queries
  have hlength : c.symbols.length = queries.count .symbol := by
    rw [← Nat.zero_add (queries.count .symbol)]
    exact length_symbols_run (begin readings) queries
  obtain ⟨ends, hsymbols⟩ := hstep.symbols_front
  have herrors := hstep.rejected_eq
  have hfailures := hstep.failures_eq
  refine ⟨?_, ?_, ⟨herrors, herrors⟩, hfailures, hfailures⟩
  · rw [← hlength]
    exact eq_takeD hsymbols
  · intro j
    rw [← hlength]
    exact hstep.lt_taken_iff j

end Conversation

end PipeShell

import Mathlib.Data.List.DropRight
import PipeShell.Proofs.ByteArrivals

/-!
# Lines do not depend on how their bytes arrive

As long as bytes arrive without a pause and without a failure, a reader of lines gives the
lines of the bytes laid end to end.  It does not matter where the bytes are cut into pieces,
how often a read is interrupted, or how much room the reader has: a carriage return may come
with one piece and its line feed with the next.  Behind the last line there is nothing but the
end of the input.
-/

namespace PipeShell

universe u

/-! ## Lines of a text that is there as a whole -/

section Lines

variable {α : Type u} [DecidableEq α]

/-- The lines of a text in which `feed` ends a line.  A line that is ended loses one `ret` in
front of its end; what stands behind the last end is a line if it is anything. -/
def linesOf (feed ret : α) (text : List α) : List (List α) :=
  let parts := text.splitOn feed
  parts.dropLast.map (withoutLast ret) ++ parts.getLast?.toList.filter (· ≠ [])

variable {feed ret : α} {part : List α}

theorem linesOf_append_cons (h : feed ∉ part) (rest : List α) :
    linesOf feed ret (part ++ feed :: rest) =
      withoutLast ret part :: linesOf feed ret rest := by
  have hparts : (part ++ feed :: rest).splitOn feed = part :: rest.splitOn feed :=
    List.splitOn_append_cons_self_of_not_mem h rest
  have hne : rest.splitOn feed ≠ [] := List.splitOn_ne_nil _ _
  rw [linesOf, hparts, List.dropLast_cons_of_ne_nil hne, List.getLast?_cons_of_ne_nil hne]
  rfl

theorem linesOf_of_notMem (h : feed ∉ part) :
    linesOf feed ret part = if part = [] then [] else [part] := by
  rw [linesOf, List.splitOn_eq_singleton h]
  by_cases hpart : part = [] <;> simp [hpart]

theorem eq_nil_of_linesOf {text : List α} (h : linesOf feed ret text = []) : text = [] := by
  by_cases hfeed : feed ∈ text
  · obtain ⟨part, rest, rfl, hpart⟩ := List.eq_append_cons_of_mem hfeed
    rw [linesOf_append_cons hpart] at h
    cases h
  · rw [linesOf_of_notMem hfeed] at h
    by_contra htext
    rw [if_neg htext] at h
    cases h

end Lines

/-- What a source of lines gives when it is read again and again. -/
def LineSource.readings {σ : Type u} [LineSource σ] (s : σ) : Nat → List LineReading
  | 0 => []
  | n + 1 => (readLine s).1 :: readings (readLine s).2 n

namespace ByteReading

/-- The bytes that a reading gives. -/
def bytes : ByteReading → Bytes
  | .data bytes => bytes
  | _ => []

instance : DecidablePred GoesOn
  | .data bytes => inferInstanceAs (Decidable (bytes ≠ []))
  | .interrupted => isTrue trivial
  | .failure _ => isFalse not_false

theorem arrivals_of_goesOn {r : ByteReading} (h : r.GoesOn) : r.arrivals = r.bytes.map .byte := by
  cases r with
  | data bytes => exact Arrivals.arrivals_data h
  | interrupted => rfl
  | failure message => exact h.elim

theorem flatMap_arrivals {arriving : List ByteReading} (h : ∀ r ∈ arriving, r.GoesOn) :
    arriving.flatMap arrivals = (arriving.flatMap bytes).map .byte := by
  rw [List.map_flatMap]
  exact List.flatMap_congr fun r hr ↦ arrivals_of_goesOn (h r hr)

end ByteReading

/-- Bytes that arrive one by one, and nothing else, come to the lines that they are. -/
theorem LineReading.ofArrivals_map_byte {unfinished : Bytes} (h : lineFeed ∉ unfinished)
    (bytes : Bytes) :
    ofArrivals unfinished (bytes.map .byte) =
      (linesOf lineFeed carriageReturn (unfinished ++ bytes)).map .line ++ [.endOfInput] := by
  induction bytes generalizing unfinished with
  | nil =>
      rw [List.append_nil, linesOf_of_notMem h, List.map_nil, ofArrivals]
      by_cases hempty : unfinished = [] <;> simp [hempty]
  | cons b bytes ih =>
      rw [List.map_cons, ofArrivals]
      by_cases hb : b = lineFeed
      · subst hb
        rw [if_pos rfl, linesOf_append_cons h, ih List.not_mem_nil]
        rfl
      · have hnext : lineFeed ∉ unfinished ++ [b] := by
          simpa [h] using Ne.symm hb
        rw [if_neg hb, ih hnext, List.append_assoc, List.singleton_append]

/-! ## Lines of what is left to arrive -/

theorem Arrivals.Reads.signs_suffix {s s' : Arrivals} {reading : ByteReading}
    (h : Reads s reading s') : s'.signs <:+ s.signs := by
  cases h with
  | nothing h => exact List.suffix_rfl
  | data hsigns hfailing =>
      rw [hsigns]
      exact List.suffix_append _ _
  | pause h | interrupted h | failure h =>
      rw [signs, signs, h]
      exact List.suffix_append _ _

namespace BufferedLines

theorem source_signs_suffix (s : BufferedLines Arrivals) : s.source.signs <:+ s.signs :=
  List.suffix_append _ _

theorem signs_suffix_of_read {s : BufferedLines Arrivals} {reading : ByteReading}
    {source : Arrivals} (hroom : 0 < s.capacity)
    (h : s.source.read s.capacity = (reading, source)) : source.signs <:+ s.signs := by
  have hreads := s.source.reads_read hroom
  rw [h] at hreads
  exact hreads.signs_suffix.trans s.source_signs_suffix

/-- Gathering a line takes from the front of what is left to arrive, and nothing else changes. -/
theorem readThrough_keeps (s : BufferedLines Arrivals) (gathered : Bytes)
    (hroom : 0 < s.capacity) :
    (s.readThrough gathered).2.capacity = s.capacity ∧
      (s.readThrough gathered).2.signs <:+ s.signs := by
  induction s, gathered using readThrough.induct with
  | case1 s gathered piece feed rest hspan =>
      obtain ⟨hbuffer, -⟩ := buffer_of_span hspan
      rw [readThrough, hspan]
      refine ⟨rfl, ?_⟩
      rw [signs, signs, hbuffer]
      exact ⟨(piece ++ [feed]).map .byte, by simp⟩
  | case2 s gathered piece hspan source hread =>
      have hsource : s.source.read s.capacity = (.data [], source) := hread
      rw [readThrough_of_span hspan, hsource]
      exact ⟨rfl, signs_suffix_of_read hroom hsource⟩
  | case3 s gathered piece hspan b bytes source hread ih =>
      have hsource : s.source.read s.capacity = (.data (b :: bytes), source) := hread
      have hreads := s.source.reads_read hroom
      rw [hsource] at hreads
      rw [readThrough_of_span hspan, hsource]
      -- What has been read is in the buffer now, so nothing is taken yet.
      have hsigns : s.source.signs = (b :: bytes).map .byte ++ source.signs := by
        cases hreads with
        | data hsigns hfailing => exact hsigns
      obtain ⟨hcapacity, hsuffix⟩ := ih hroom
      refine ⟨hcapacity, hsuffix.trans ?_⟩
      rw [signs, ← hsigns]
      exact s.source_signs_suffix
  | case4 s gathered piece hspan source hread ih =>
      have hsource : s.source.read s.capacity = (.interrupted, source) := hread
      rw [readThrough_of_span hspan, hsource]
      obtain ⟨hcapacity, hsuffix⟩ := ih hroom
      exact ⟨hcapacity, hsuffix.trans (signs_suffix_of_read hroom hsource)⟩
  | case5 s gathered piece hspan message source hread =>
      have hsource : s.source.read s.capacity = (.failure message, source) := hread
      rw [readThrough_of_span hspan, hsource]
      exact ⟨rfl, signs_suffix_of_read hroom hsource⟩

theorem readLine_snd (s : BufferedLines Arrivals) : s.readLine.2 = (s.readThrough []).2 := by
  rw [readLine]
  split <;> simp_all

/-- Only bytes are left to arrive, and these are the ones. -/
structure Awaits (s : BufferedLines Arrivals) (bytes : Bytes) : Prop where
  room : 0 < s.capacity
  signs : s.signs = bytes.map .byte

theorem awaits_ofSource {arriving : List ByteReading} (h : ∀ r ∈ arriving, r.GoesOn)
    {capacity : Nat} (hroom : 0 < capacity) :
    Awaits (.ofSource ⟨arriving⟩ capacity) (arriving.flatMap ByteReading.bytes) :=
  ⟨hroom, ByteReading.flatMap_arrivals h⟩

variable {s : BufferedLines Arrivals} {bytes : Bytes}

/-- Of bytes only, bytes are left. -/
theorem Awaits.exists_readLine (h : Awaits s bytes) :
    ∃ rest, rest <:+ bytes ∧ Awaits s.readLine.2 rest := by
  obtain ⟨hcapacity, hsuffix⟩ := s.readThrough_keeps [] h.room
  rw [← readLine_snd] at hcapacity hsuffix
  rw [h.signs] at hsuffix
  obtain ⟨rest, hrest, hsigns⟩ := List.suffix_map_iff.1 hsuffix
  exact ⟨rest, hrest, hcapacity ▸ h.room, hsigns⟩

theorem Awaits.ofArrivals (h : Awaits s bytes) :
    LineReading.ofArrivals [] s.signs =
      (linesOf lineFeed carriageReturn bytes).map .line ++ [.endOfInput] := by
  rw [h.signs, LineReading.ofArrivals_map_byte List.not_mem_nil, List.nil_append]

/-- When a reader of lines is read again and again it gives the lines of the bytes that are
left to arrive, and then the end of the input for ever. -/
theorem Awaits.readings (h : Awaits s bytes) (n : Nat) :
    LineSource.readings s n =
      ((linesOf lineFeed carriageReturn bytes).map .line).takeD n .endOfInput := by
  induction n generalizing s bytes with
  | zero => rfl
  | succ n ih =>
      obtain ⟨rest, hrest, hawaits⟩ := h.exists_readLine
      have hreadings : LineSource.readings s (n + 1) =
          s.readLine.1 :: LineSource.readings s.readLine.2 n := rfl
      have hlines := h.ofArrivals
      have hlater := hawaits.ofArrivals
      rw [hreadings, ih hawaits, List.takeD_succ]
      have hdelivers := s.delivers_readLine h.room
      generalize s.readLine.1 = reading, s.readLine.2 = s' at hdelivers hlater
      cases hdelivers with
      | @line line _ hfirst =>
          rw [hfirst, hlater, ← List.cons_append] at hlines
          rw [← List.append_cancel_right hlines]
          rfl
      | ended hfirst =>
          rw [hfirst] at hlines
          have hnone : (linesOf lineFeed carriageReturn bytes).map LineReading.line = [] := by
            simpa using hlines
          obtain rfl := eq_nil_of_linesOf (List.map_eq_nil_iff.1 hnone)
          obtain rfl := List.suffix_nil.1 hrest
          rfl
      | failed hfirst =>
          rw [hfirst] at hlines
          have hlast := congrArg List.getLast? hlines
          simp at hlast

/-- Bytes that arrive in pieces of any size, with any number of interruptions, are read as the
lines of the bytes laid end to end, whatever room the reader has; and then there is the end of
the input for ever. -/
theorem readings_eq_lines {arriving : List ByteReading} (hgoes : ∀ r ∈ arriving, r.GoesOn)
    {capacity : Nat} (hroom : 0 < capacity) (n : Nat) :
    LineSource.readings (ofSource (Arrivals.mk arriving) capacity) n =
      ((linesOf lineFeed carriageReturn (arriving.flatMap ByteReading.bytes)).map .line).takeD n
        .endOfInput :=
  (awaits_ofSource hgoes hroom).readings n

/-- With room for one byte, a carriage return that comes before its line feed has arrived is
given up; of two only one is, and the one at the end of the last line stays. -/
theorem readings_eq_lines_torn :
    let arriving : List ByteReading := [.interrupted, .data (encode "a\r"), .interrupted,
      .data (encode "\n\r"), .interrupted, .interrupted, .data (encode "\r\nb\r")]
    (∀ r ∈ arriving, r.GoesOn) ∧ 0 < 1 ∧
      LineSource.readings (ofSource (Arrivals.mk arriving) 1) 5 =
        [.line (encode "a"), .line (encode "\r"), .line (encode "b\r"), .endOfInput,
          .endOfInput] := by
  intro arriving
  have hgoes : ∀ r ∈ arriving, r.GoesOn := by
    decide +kernel
  refine ⟨hgoes, by decide, ?_⟩
  rw [readings_eq_lines hgoes (by decide) 5]
  decide +kernel

end BufferedLines

end PipeShell

import Mathlib.Data.List.TakeDrop
import Mathlib.Data.List.TakeWhile
import PipeShell.Line.Buffered

/-!
# The lines that arriving bytes come to

How bytes are cut into lines can be said byte by byte, without a buffer and without the
pieces in which they arrive: a line ends at a line feed, or where a reading gives nothing
while some of its bytes are there.  A reading that gives nothing between two lines is the
end of the input, and a failure ends it in the middle of a line.  Reading lines through a
buffer comes to the same, whatever its capacity.
-/

namespace PipeShell

/-- What a reader of bytes meets, one byte at a time. -/
inductive Arrival where
  | byte (b : UInt8)
  /-- A reading of no bytes. -/
  | pause
  | failure (message : String)
  deriving DecidableEq, Repr

/-- What one reading comes to. -/
def ByteReading.arrivals : ByteReading → List Arrival
  | .data [] => [.pause]
  | .data (b :: bytes) => (b :: bytes).map .byte
  | .interrupted => []
  | .failure message => [.failure message]

def ByteReading.isFailure : ByteReading → Bool
  | .failure _ => true
  | _ => false

/-- The byte that a line may have in front of its line feed. -/
def carriageReturn : UInt8 := 13

/-- The values without the last one if it is `a`. -/
def withoutLast {α : Type u} [DecidableEq α] (a : α) (l : List α) : List α :=
  if l.getLast? = some a then l.dropLast else l

namespace LineReading

/-- The readings of lines that arrivals come to, behind the bytes of an unfinished line.
The last of them is the only one that is no line. -/
def ofArrivals (unfinished : Bytes) : List Arrival → List LineReading
  | [] => if unfinished = [] then [.endOfInput] else [.line unfinished, .endOfInput]
  | .byte b :: rest =>
      if b = lineFeed then .line (withoutLast carriageReturn unfinished) :: ofArrivals [] rest
      else ofArrivals (unfinished ++ [b]) rest
  | .pause :: rest =>
      if unfinished = [] then [.endOfInput] else .line unfinished :: ofArrivals [] rest
  | .failure message :: _ =>
      [.failure ((Failure.ofText message).within "unable to read input line")]

theorem ofArrivals_bytes (unfinished : Bytes) {bytes : Bytes} (h : lineFeed ∉ bytes)
    (rest : List Arrival) :
    ofArrivals unfinished (bytes.map .byte ++ rest) = ofArrivals (unfinished ++ bytes) rest := by
  induction bytes generalizing unfinished with
  | nil => rw [List.map_nil, List.nil_append, List.append_nil]
  | cons b bytes ih =>
      have hb : b ≠ lineFeed := fun hb ↦ h (hb ▸ List.mem_cons_self)
      have hbytes : lineFeed ∉ bytes := fun hmem ↦ h (List.mem_cons_of_mem b hmem)
      rw [List.map_cons, List.cons_append, ofArrivals, if_neg hb, ih _ hbytes,
        List.append_assoc, List.singleton_append]

end LineReading

namespace Arrivals

/-- What is left to arrive. -/
def signs (s : Arrivals) : List Arrival :=
  s.readings.flatMap ByteReading.arrivals

/-- The first failure that is left, and what comes behind it. -/
def failing (s : Arrivals) : List ByteReading :=
  s.readings.dropWhile (!·.isFailure)

/-- All that one read with room for a byte can do. -/
inductive Reads (s : Arrivals) : ByteReading → Arrivals → Prop where
  | nothing (h : s.readings = []) : Reads s (.data []) s
  | pause {rest : List ByteReading} (h : s.readings = .data [] :: rest) :
      Reads s (.data []) ⟨rest⟩
  | data {b : UInt8} {bytes : Bytes} {s' : Arrivals}
      (hsigns : s.signs = (b :: bytes).map .byte ++ s'.signs)
      (hfailing : s'.failing = s.failing) : Reads s (.data (b :: bytes)) s'
  | interrupted {rest : List ByteReading} (h : s.readings = .interrupted :: rest) :
      Reads s .interrupted ⟨rest⟩
  | failure {message : String} {rest : List ByteReading}
      (h : s.readings = .failure message :: rest) : Reads s (.failure message) ⟨rest⟩

theorem arrivals_data {bytes : Bytes} (h : bytes ≠ []) :
    (ByteReading.data bytes).arrivals = bytes.map .byte := by
  cases bytes with
  | nil => exact absurd rfl h
  | cons b bytes => rfl

theorem reads_read (s : Arrivals) {limit : Nat} (hlimit : 0 < limit) :
    Reads s (s.read limit).1 (s.read limit).2 := by
  match s with
  | ⟨[]⟩ => exact .nothing rfl
  | ⟨.data [] :: rest⟩ =>
      have hfit : ([] : Bytes).length ≤ limit := Nat.zero_le limit
      rw [read, if_pos hfit]
      exact .pause rfl
  | ⟨.interrupted :: rest⟩ => exact .interrupted rfl
  | ⟨.failure message :: rest⟩ => exact .failure rfl
  | ⟨.data (b :: bytes) :: rest⟩ =>
      by_cases hfit : (b :: bytes).length ≤ limit
      · rw [read, if_pos hfit]
        exact .data rfl rfl
      · -- Only a part of the bytes fits, and the others are left for the next read.
        obtain ⟨room, rfl⟩ : ∃ room, limit = room + 1 := ⟨limit - 1, by omega⟩
        have hleft : (b :: bytes).drop (room + 1) ≠ [] := by
          intro hnil
          have hlength := List.drop_eq_nil_iff.1 hnil
          omega
        rw [read, if_neg hfit]
        refine .data ?_ rfl
        simp only [signs, List.flatMap_cons]
        rw [arrivals_data hleft, arrivals_data (List.cons_ne_nil b bytes), ← List.append_assoc,
          ← List.map_append]
        change _ = ((b :: bytes).take (room + 1) ++ (b :: bytes).drop (room + 1)).map _ ++ _
        rw [List.take_append_drop]

theorem Reads.ofArrivals_nothing {s s' : Arrivals} (h : Reads s (.data []) s')
    (unfinished : Bytes) :
    LineReading.ofArrivals unfinished s.signs =
      if unfinished = [] then [.endOfInput]
      else .line unfinished :: LineReading.ofArrivals [] s'.signs := by
  cases h with
  | nothing h =>
      rw [signs, h]
      rfl
  | pause h =>
      rw [signs, h]
      rfl

/-- A failure is passed by no read but the one that meets it. -/
theorem Reads.failing_eq {s s' : Arrivals} {reading : ByteReading} (h : Reads s reading s')
    (hgoes : reading.isFailure = false) : s'.failing = s.failing := by
  cases h with
  | nothing h => rfl
  | pause h =>
      rw [failing, failing, h]
      rfl
  | data hsigns hfailing => exact hfailing
  | interrupted h =>
      rw [failing, failing, h]
      rfl
  | failure h => cases hgoes

end Arrivals

namespace BufferedLines

/-- What is left to arrive at a reader of lines. -/
def signs (s : BufferedLines Arrivals) : List Arrival :=
  s.buffer.map .byte ++ s.source.signs

/-- All that gathering the bytes of a line can come to. -/
inductive Brings (s : BufferedLines Arrivals) (gathered : Bytes) :
    Except String Bytes → BufferedLines Arrivals → Prop where
  | line {line : Bytes} {s' : BufferedLines Arrivals} (hline : lineFeed ∉ line)
      (hreadings : LineReading.ofArrivals gathered s.signs =
        .line (withoutLast carriageReturn line) :: LineReading.ofArrivals [] s'.signs)
      (hcapacity : s'.capacity = s.capacity) (hfailing : s'.source.failing = s.source.failing) :
      Brings s gathered (.ok (line ++ [lineFeed])) s'
  | piece {line : Bytes} {s' : BufferedLines Arrivals} (hline : lineFeed ∉ line)
      (hsome : line ≠ [])
      (hreadings : LineReading.ofArrivals gathered s.signs =
        .line line :: LineReading.ofArrivals [] s'.signs)
      (hcapacity : s'.capacity = s.capacity) (hfailing : s'.source.failing = s.source.failing) :
      Brings s gathered (.ok line) s'
  | ended {s' : BufferedLines Arrivals}
      (hreadings : LineReading.ofArrivals gathered s.signs = [.endOfInput]) :
      Brings s gathered (.ok []) s'
  | failed {message : String} {rest : List ByteReading}
      (hreadings : LineReading.ofArrivals gathered s.signs =
        [.failure ((Failure.ofText message).within "unable to read input line")])
      (hfailing : s.source.failing = .failure message :: rest) :
      Brings s gathered (.error message) (.ofSource ⟨rest⟩ s.capacity)

/-- What has been gathered counts as what has arrived before. -/
theorem Brings.more {s t s' : BufferedLines Arrivals} {gathered gathered' : Bytes}
    {result : Except String Bytes} (h : Brings t gathered' result s')
    (hreadings : LineReading.ofArrivals gathered s.signs =
      LineReading.ofArrivals gathered' t.signs)
    (hcapacity : t.capacity = s.capacity) (hfailing : t.source.failing = s.source.failing) :
    Brings s gathered result s' := by
  cases h with
  | line hline hr hc hf =>
      exact .line hline (hreadings.trans hr) (hc.trans hcapacity) (hf.trans hfailing)
  | piece hline hsome hr hc hf =>
      exact .piece hline hsome (hreadings.trans hr) (hc.trans hcapacity) (hf.trans hfailing)
  | ended hr => exact .ended (hreadings.trans hr)
  | failed hr hf =>
      rw [hcapacity]
      exact .failed (hreadings.trans hr) (hfailing.symm.trans hf)

theorem buffer_of_span {ρ : Type _} {s : BufferedLines ρ} {piece rest : Bytes}
    (h : s.buffer.span (· != lineFeed) = (piece, rest)) :
    s.buffer = piece ++ rest ∧ lineFeed ∉ piece := by
  rw [List.span_eq_takeWhile_dropWhile] at h
  obtain ⟨rfl, rfl⟩ := Prod.mk.inj h
  refine ⟨List.takeWhile_append_dropWhile.symm, fun hmem ↦ ?_⟩
  have hfeed := List.mem_takeWhile_imp hmem
  simp at hfeed

theorem feed_of_span {s : BufferedLines Arrivals} {piece rest : Bytes} {feed : UInt8}
    (h : s.buffer.span (· != lineFeed) = (piece, feed :: rest)) : feed = lineFeed := by
  rw [List.span_eq_takeWhile_dropWhile] at h
  have hdrop : s.buffer.dropWhile (· != lineFeed) = feed :: rest := (Prod.mk.inj h).2
  have hhead := List.head?_dropWhile_not (· != lineFeed) s.buffer
  simpa [hdrop] using hhead

/-- Bytes in the buffer without a line feed are gathered. -/
theorem ofArrivals_signs_of_span {s : BufferedLines Arrivals} {piece : Bytes}
    (h : s.buffer.span (· != lineFeed) = (piece, [])) (gathered : Bytes) :
    LineReading.ofArrivals gathered s.signs =
      LineReading.ofArrivals (gathered ++ piece) s.source.signs := by
  obtain ⟨hbuffer, hpiece⟩ := buffer_of_span h
  rw [signs, hbuffer, List.append_nil, LineReading.ofArrivals_bytes gathered hpiece]

theorem readThrough_of_span_nil {ρ : Type _} [ByteSource ρ] {s : BufferedLines ρ} {piece : Bytes}
    (h : s.buffer.span (· != lineFeed) = (piece, [])) (gathered : Bytes) :
    s.readThrough gathered =
      match ByteSource.read s.source s.capacity with
      | (.data [], source) => (.ok (gathered ++ piece), ⟨source, [], s.capacity⟩)
      | (.data (b :: bytes), source) =>
          readThrough ⟨source, b :: bytes, s.capacity⟩ (gathered ++ piece)
      | (.interrupted, source) => readThrough ⟨source, [], s.capacity⟩ (gathered ++ piece)
      | (.failure message, source) => (.error message, ⟨source, [], s.capacity⟩) := by
  rw [readThrough, h]
  dsimp only
  split <;> rename_i hmatch <;> rw [hmatch]

theorem readThrough_of_span {s : BufferedLines Arrivals} {piece : Bytes}
    (h : s.buffer.span (· != lineFeed) = (piece, [])) (gathered : Bytes) :
    s.readThrough gathered =
      match s.source.read s.capacity with
      | (.data [], source) => (.ok (gathered ++ piece), ⟨source, [], s.capacity⟩)
      | (.data (b :: bytes), source) =>
          readThrough ⟨source, b :: bytes, s.capacity⟩ (gathered ++ piece)
      | (.interrupted, source) => readThrough ⟨source, [], s.capacity⟩ (gathered ++ piece)
      | (.failure message, source) => (.error message, ⟨source, [], s.capacity⟩) := by
  have hread : ByteSource.read s.source s.capacity = s.source.read s.capacity := rfl
  rw [readThrough_of_span_nil h, hread]
  split <;> rename_i hmatch <;> rw [hmatch]

/-- Gathering a line by pieces comes to what the bytes come to one by one. -/
theorem brings_readThrough (s : BufferedLines Arrivals) (gathered : Bytes)
    (hroom : 0 < s.capacity) (hgathered : lineFeed ∉ gathered) :
    Brings s gathered (s.readThrough gathered).1 (s.readThrough gathered).2 := by
  induction s, gathered using readThrough.induct with
  | case1 s gathered piece feed rest hspan =>
      obtain ⟨hbuffer, hpiece⟩ := buffer_of_span hspan
      obtain rfl := feed_of_span hspan
      have hline : lineFeed ∉ gathered ++ piece := by
        simp [hgathered, hpiece]
      rw [readThrough, hspan]
      refine .line hline ?_ rfl rfl
      rw [signs, hbuffer, List.map_append, List.append_assoc,
        LineReading.ofArrivals_bytes gathered hpiece, List.map_cons, List.cons_append,
        LineReading.ofArrivals, if_pos rfl]
      rfl
  | case2 s gathered piece hspan source hread =>
      have hsigns := ofArrivals_signs_of_span hspan gathered
      have hline : lineFeed ∉ gathered ++ piece := by
        simp [hgathered, (buffer_of_span hspan).2]
      have hreads := s.source.reads_read hroom
      have hsource : s.source.read s.capacity = (.data [], source) := hread
      rw [readThrough_of_span hspan, hsource]
      rw [hsource] at hreads
      have hnothing := hreads.ofArrivals_nothing (gathered ++ piece)
      have hfailing := hreads.failing_eq rfl
      rw [← hsigns] at hnothing
      by_cases hempty : gathered ++ piece = []
      · rw [if_pos hempty] at hnothing
        rw [hempty]
        exact .ended hnothing
      · rw [if_neg hempty] at hnothing
        exact .piece hline hempty hnothing rfl hfailing
  | case3 s gathered piece hspan b bytes source hread ih =>
      have hsource : s.source.read s.capacity = (.data (b :: bytes), source) := hread
      have hline : lineFeed ∉ gathered ++ piece := by
        simp [hgathered, (buffer_of_span hspan).2]
      have hreads := s.source.reads_read hroom
      rw [hsource] at hreads
      rw [readThrough_of_span hspan, hsource]
      have hsigns : s.source.signs = (b :: bytes).map .byte ++ source.signs := by
        cases hreads with
        | data hsigns hfailing => exact hsigns
      refine (ih hroom hline).more ?_ rfl (hreads.failing_eq rfl)
      rw [ofArrivals_signs_of_span hspan, hsigns]
      rfl
  | case4 s gathered piece hspan source hread ih =>
      have hsource : s.source.read s.capacity = (.interrupted, source) := hread
      have hline : lineFeed ∉ gathered ++ piece := by
        simp [hgathered, (buffer_of_span hspan).2]
      have hreads := s.source.reads_read hroom
      rw [hsource] at hreads
      rw [readThrough_of_span hspan, hsource]
      have hsigns : s.source.signs = source.signs := by
        cases hreads with
        | interrupted h =>
            rw [Arrivals.signs, h]
            rfl
      refine (ih hroom hline).more ?_ rfl (hreads.failing_eq rfl)
      rw [ofArrivals_signs_of_span hspan, hsigns]
      rfl
  | case5 s gathered piece hspan message source hread =>
      have hsource : s.source.read s.capacity = (.failure message, source) := hread
      have hreads := s.source.reads_read hroom
      rw [hsource] at hreads
      rw [readThrough_of_span hspan, hsource]
      obtain ⟨rest, hrest, rfl⟩ : ∃ rest, s.source.readings = .failure message :: rest ∧
          source = ⟨rest⟩ := by
        cases hreads with
        | failure h => exact ⟨_, h, rfl⟩
      refine .failed ?_ ?_
      · rw [ofArrivals_signs_of_span hspan, Arrivals.signs, hrest]
        rfl
      · rw [Arrivals.failing, hrest]
        rfl

/-- All that reading a line can come to. -/
inductive Delivers (s : BufferedLines Arrivals) :
    LineReading → BufferedLines Arrivals → Prop where
  | line {line : Bytes} {s' : BufferedLines Arrivals}
      (hreadings : LineReading.ofArrivals [] s.signs =
        .line line :: LineReading.ofArrivals [] s'.signs)
      (hcapacity : s'.capacity = s.capacity) (hfailing : s'.source.failing = s.source.failing) :
      Delivers s (.line line) s'
  | ended {s' : BufferedLines Arrivals}
      (hreadings : LineReading.ofArrivals [] s.signs = [.endOfInput]) :
      Delivers s .endOfInput s'
  | failed {message : String} {rest : List ByteReading}
      (hreadings : LineReading.ofArrivals [] s.signs =
        [.failure ((Failure.ofText message).within "unable to read input line")])
      (hfailing : s.source.failing = .failure message :: rest) :
      Delivers s (.failure ((Failure.ofText message).within "unable to read input line"))
        (.ofSource ⟨rest⟩ s.capacity)

theorem stripTerminator_feed (line : Bytes) :
    stripTerminator (line ++ [lineFeed]) = withoutLast carriageReturn line := by
  rw [stripTerminator, List.getLast?_concat, if_pos rfl, List.dropLast_concat]
  rfl

theorem stripTerminator_of_notMem {line : Bytes} (h : lineFeed ∉ line) :
    stripTerminator line = line := by
  rw [stripTerminator, if_neg fun hlast ↦ h (List.mem_of_getLast? hlast)]

theorem readLine_of_ok {s s' : BufferedLines Arrivals} {line : Bytes}
    (h : s.readThrough [] = (.ok line, s')) (hsome : line ≠ []) :
    s.readLine = (.line (stripTerminator line), s') := by
  cases line with
  | nil => exact absurd rfl hsome
  | cons b bytes => rw [readLine, h]

/-- A reader of lines gives the first of the lines that the bytes come to, and what it has
read too far counts for the lines behind it. -/
theorem delivers_readLine (s : BufferedLines Arrivals) (hroom : 0 < s.capacity) :
    Delivers s s.readLine.1 s.readLine.2 := by
  have hbrings := s.brings_readThrough [] hroom List.not_mem_nil
  rcases hthrough : s.readThrough [] with ⟨result, s'⟩
  rw [hthrough] at hbrings
  cases hbrings with
  | @line line _ hline hreadings hcapacity hfailing =>
      rw [readLine_of_ok hthrough (List.concat_ne_nil _ _), stripTerminator_feed]
      exact .line hreadings hcapacity hfailing
  | @piece line _ hline hsome hreadings hcapacity hfailing =>
      rw [readLine_of_ok hthrough hsome, stripTerminator_of_notMem hline]
      exact .line hreadings hcapacity hfailing
  | ended hreadings =>
      rw [readLine, hthrough]
      exact .ended hreadings
  | failed hreadings hfailing =>
      rw [readLine, hthrough]
      exact .failed hreadings hfailing

end BufferedLines

end PipeShell

import PipeShell.Proofs.ArrivingLines
import PipeShell.Proofs.Requests
import PipeShell.Script

/-!
# Bytes left to read

What is left of a script is what the reader of its lines has in its buffer and what is left
behind the descriptor.  No byte is read twice, and a line has at least one: so a script of
which no more is left from one line to the next comes to an end.
-/

namespace PipeShell

namespace DescriptorBytes

/-- What a read gives is taken from what is left behind the open file. -/
theorem remainingIn_readFile {m rest : Machine} {shell : Table} {file : FileId} {f : OpenFile}
    {limit : ℕ} {reply : ReadReply} (hf : m.opened[file]? = some f)
    (hdevice : isDevice m f = false) (hread : m.readFile shell file limit = (reply, rest)) :
    ∃ f', rest.opened[file]? = some f' ∧
      remainingIn rest f' + reply.bytes.length ≤ remainingIn m f := by
  have hsame {reply' : ReadReply} (h : (reply', m) = (reply, rest)) (hnone : reply'.bytes = []) :
      ∃ f', rest.opened[file]? = some f' ∧
        remainingIn rest f' + reply.bytes.length ≤ remainingIn m f := by
    obtain ⟨rfl, rfl⟩ := Prod.mk.inj h
    exact ⟨f, hf, by rw [hnone]; exact Nat.le_refl _⟩
  have hsize : file < m.opened.size := (Array.getElem?_eq_some_iff.1 hf).1
  unfold Machine.readFile at hread
  rw [hf] at hread
  cases f with
  | node id access offset appends =>
      dsimp only at hread
      split at hread
      next => exact hsame hread rfl
      next =>
        split at hread
        next data permissions hnode =>
          obtain ⟨rfl, rfl⟩ := Prod.mk.inj hread
          refine ⟨_, Array.getElem?_setIfInBounds_self_of_lt hsize, ?_⟩
          simp only [remainingIn, hnode, ReadReply.bytes, List.length_take, List.length_drop]
          omega
        next => exact hsame hread rfl
        next hnode => simp [isDevice, hnode] at hdevice
        next hnode => simp [isDevice, hnode] at hdevice
        next => exact hsame hread rfl
  | pipe id side =>
      cases side with
      | reader =>
          dsimp only at hread
          split at hread
          next b bytes hpipe =>
            obtain ⟨rfl, rfl⟩ := Prod.mk.inj hread
            have hid : id < m.pipes.size := (Array.getElem?_eq_some_iff.1 hpipe).1
            refine ⟨_, hf, ?_⟩
            simp only [remainingIn, hpipe, Array.getElem?_setIfInBounds_self_of_lt hid,
              Option.getD_some, ReadReply.bytes, List.length_take, List.length_drop]
            omega
          next =>
            split at hread
            next => exact hsame hread rfl
            next => exact hsame hread rfl
      | writer => exact hsame hread rfl

/-- In a world, what a read gives is taken from what is left behind the descriptor. -/
theorem remaining_worldRead (s : DescriptorBytes) (limit : ℕ)
    (hdevice : ¬ s.file?.any (isDevice s.world.machine)) :
    (DescriptorBytes.mk s.fd (s.world.read s.fd limit).2).remaining +
      (s.world.read s.fd limit).1.bytes.length ≤ s.remaining := by
  unfold World.read Machine.read
  cases hget : s.world.table.get? s.fd with
  | none => exact Nat.le_refl _
  | some held =>
      dsimp only
      rcases hread : s.world.machine.readFile s.world.table held.file limit with ⟨reply, rest⟩
      have hfile : s.file? = s.world.machine.opened[held.file]? := by
        simp [file?, Machine.fileAt?, hget]
      have hafter : (DescriptorBytes.mk s.fd { s.world with machine := rest }).file? =
          rest.opened[held.file]? := by
        simp [file?, Machine.fileAt?, hget]
      rw [remaining, remaining, hafter, hfile]
      cases hf : s.world.machine.opened[held.file]? with
      | none =>
          have hfailed : s.world.machine.readFile s.world.table held.file limit =
              (.failed .badDescriptor, s.world.machine) := by
            rw [Machine.readFile, hf]
          obtain ⟨rfl, rfl⟩ := Prod.mk.inj (hfailed.symm.trans hread)
          rw [hf]
          exact Nat.le_refl _
      | some f =>
          have hnot : isDevice s.world.machine f = false := by
            simpa [hfile, hf] using hdevice
          obtain ⟨f', hf', hle⟩ := remainingIn_readFile hf hnot hread
          rw [hf']
          exact hle

/-- Of what is left, a read takes what it gives. -/
theorem remaining_read_add_le (s : DescriptorBytes) (limit : ℕ) :
    (s.read limit).2.remaining + (s.read limit).1.bytes.length ≤ s.remaining := by
  unfold read
  split
  next => exact Nat.le_refl _
  next hdevice =>
    have hread := s.remaining_worldRead limit hdevice
    generalize s.world.read s.fd limit = result at hread
    obtain ⟨reply, world⟩ := result
    cases reply with
    | data bytes => exact hread
    | blocked => exact hread
    | failed e =>
        dsimp only
        split
        · exact hread
        · exact hread

theorem remaining_of_read {s s' : DescriptorBytes} {limit : ℕ} {reading : ByteReading}
    (h : ByteSource.read s limit = (reading, s')) :
    s'.remaining + reading.bytes.length ≤ s.remaining := by
  have hle := s.remaining_read_add_le limit
  have hread : s.read limit = (reading, s') := h
  rwa [hread] at hle

end DescriptorBytes

namespace BufferedLines

/-- The number of bytes that belong to lines not given yet. -/
def left (s : BufferedLines DescriptorBytes) : ℕ :=
  s.buffer.length + s.source.remaining

/-- What is gathered is taken from what was left. -/
theorem left_readThrough (s : BufferedLines DescriptorBytes) {gathered line : Bytes}
    (h : (s.readThrough gathered).1 = .ok line) :
    (s.readThrough gathered).2.left + line.length ≤ s.left + gathered.length := by
  -- What a read adds to the buffer it takes from the source, so the sum does not grow.
  induction s, gathered using readThrough.induct with
  | case1 s gathered piece feed rest hspan =>
      obtain ⟨hbuffer, -⟩ := buffer_of_span hspan
      rw [readThrough, hspan] at h ⊢
      obtain rfl := Except.ok.inj h
      simp only [left, hbuffer, List.length_append, List.length_cons, List.length_nil]
      omega
  | case2 s gathered piece hspan source hread =>
      obtain ⟨hbuffer, -⟩ := buffer_of_span hspan
      have htaken : source.remaining + 0 ≤ s.source.remaining :=
        DescriptorBytes.remaining_of_read hread
      rw [readThrough_of_span_nil hspan, hread] at h ⊢
      obtain rfl := Except.ok.inj h
      simp only [left, hbuffer, List.length_append, List.length_nil]
      omega
  | case3 s gathered piece hspan b bytes source hread ih =>
      obtain ⟨hbuffer, -⟩ := buffer_of_span hspan
      have htaken : source.remaining + (b :: bytes).length ≤ s.source.remaining :=
        DescriptorBytes.remaining_of_read hread
      rw [readThrough_of_span_nil hspan, hread] at h ⊢
      have hrest := ih h
      simp only [left, hbuffer, List.length_append, List.length_nil] at hrest ⊢
      omega
  | case4 s gathered piece hspan source hread ih =>
      obtain ⟨hbuffer, -⟩ := buffer_of_span hspan
      have htaken : source.remaining + 0 ≤ s.source.remaining :=
        DescriptorBytes.remaining_of_read hread
      rw [readThrough_of_span_nil hspan, hread] at h ⊢
      have hrest := ih h
      simp only [left, hbuffer, List.length_append, List.length_nil] at hrest ⊢
      omega
  | case5 s gathered piece hspan message source hread =>
      rw [readThrough_of_span_nil hspan, hread] at h
      cases h

/-- A line takes at least one byte of what is left. -/
theorem left_readLine (s : BufferedLines DescriptorBytes) {bytes : Bytes}
    (h : s.readLine.1 = .line bytes) : s.readLine.2.left < s.left := by
  have hgathered (line : Bytes) (hline : (s.readThrough []).1 = .ok line) :
      (s.readThrough []).2.left + line.length ≤ s.left := s.left_readThrough hline
  rw [readLine] at h ⊢
  generalize s.readThrough [] = result at h hgathered
  obtain ⟨gathered, rest⟩ := result
  cases gathered with
  | error message => cases h
  | ok line =>
      cases line with
      | nil => cases h
      | cons b line =>
          have hle : rest.left + (line.length + 1) ≤ s.left := hgathered (b :: line) rfl
          dsimp only
          omega

end BufferedLines

namespace DescriptorLines

/-- The number of bytes that belong to lines not given yet. -/
def left (s : DescriptorLines) (w : World) : ℕ :=
  (s.buffered w).left

/-- A line takes at least one byte of what is left of its script. -/
theorem left_of_readLine {s s' : DescriptorLines} {w w' : World} {bytes : Bytes}
    (h : ScriptSource.readLine s w = (.line bytes, s', w')) : s'.left w' < s.left w := by
  have hread : ((s.buffered w).readLine.1, ofBuffered (s.buffered w).readLine.2) =
      (.line bytes, s', w') := h
  obtain ⟨hline, hrest⟩ := Prod.mk.inj hread
  have hless := (s.buffered w).left_readLine hline
  generalize (s.buffered w).readLine.2 = rest at hrest hless
  obtain ⟨rfl, rfl⟩ := Prod.mk.inj hrest
  exact hless

end DescriptorLines

end PipeShell

import PipeShell.Line.Buffered
import PipeShell.System.World
import PipeShell.Text.Cluster

/-!
# Scripts

A script is a source of lines in a world: reading a line may change the world,
as when the lines come from a file that the shell's children read as well.  A
source of lines that stands for itself leaves the world alone.
-/

namespace PipeShell

/-- Sources of lines in a world, by their state. -/
class ScriptSource (σ : Type u) where
  readLine : σ → World → LineReading × σ × World

instance (priority := low) [LineSource σ] : ScriptSource σ where
  readLine s w :=
    let (reading, s) := LineSource.readLine s
    (reading, s, w)

/-- A script and its world together are a source of lines. -/
instance (priority := low) [ScriptSource σ] : LineSource (σ × World) where
  readLine sw :=
    let (reading, s, w) := ScriptSource.readLine sw.1 sw.2
    (reading, (s, w))

/-! ## Bytes under a descriptor -/

/-- A descriptor of the shell and the world to read it in. -/
structure DescriptorBytes where
  fd : Descriptor
  world : World

namespace DescriptorBytes

/-- Whether an open file is a device. -/
def isDevice (m : Machine) : OpenFile → Bool
  | .node id _ _ _ => ((m.tree.node? id) matches some (.device _))
  | .pipe _ _ => false

/-- The number of bytes left behind an open file's place. -/
def remainingIn (m : Machine) : OpenFile → Nat
  | .node id _ offset _ =>
      match m.tree.node? id with
      | some (.file data _) => data.length - offset
      | _ => 0
  | .pipe id _ => (m.pipes[id]?.getD []).length

/-- What is behind the descriptor. -/
def file? (s : DescriptorBytes) : Option OpenFile :=
  s.world.machine.fileAt? s.world.table s.fd

/-- One read.  A pipe that has nothing to give yet counts as being at its end,
and so does every device: what comes out of one has no end.  A standard input
that is not there to be read has ended as well. -/
def read (s : DescriptorBytes) (limit : Nat) : ByteReading × DescriptorBytes :=
  if s.file?.any (isDevice s.world.machine) then (.data [], s)
  else
    match s.world.read s.fd limit with
    | (.data bytes, world) => (.data bytes, { s with world })
    | (.blocked, world) => (.data [], { s with world })
    | (.failed e, world) =>
        if s.fd = 0 ∧ e = .badDescriptor then (.data [], { s with world })
        else (.failure (FileError.refused e).message, { s with world })

/-- The number of bytes left to read. -/
def remaining (s : DescriptorBytes) : Nat :=
  (s.file?.map (remainingIn s.world.machine)).getD 0

theorem remaining_readFile {m : Machine} {shell : Table} {file : FileId} {f : OpenFile}
    {limit : Nat} {bytes : Bytes} {rest : Machine} (hf : m.opened[file]? = some f)
    (hdevice : isDevice m f = false)
    (hread : m.readFile shell file limit = (.data bytes, rest)) (hne : bytes ≠ []) :
    ∃ f', rest.opened[file]? = some f' ∧ remainingIn rest f' < remainingIn m f := by
  have hsize : file < m.opened.size := (Array.getElem?_eq_some_iff.1 hf).1
  unfold Machine.readFile at hread
  rw [hf] at hread
  match f with
  | .node id access offset appends =>
    simp only at hread
    split at hread
    · simp at hread
    split at hread
    next data _ hnode =>
      cases hread
      have hlen := List.length_pos_iff.2 hne
      refine ⟨_, by simp [hsize]; rfl, ?_⟩
      simp only [remainingIn, hnode]
      simp only [List.length_take, List.length_drop] at hlen ⊢
      omega
    next => simp at hread
    next hnode => simp [isDevice, hnode] at hdevice
    next hnode => simp [isDevice, hnode] at hdevice
    next => simp_all
  | .pipe id .reader =>
    simp only at hread
    split at hread
    next b more hpipe =>
      cases hread
      have hid : id < m.pipes.size := (Array.getElem?_eq_some_iff.1 hpipe).1
      refine ⟨_, hf, ?_⟩
      have hlimit : limit ≠ 0 := by
        rintro rfl
        simp at hne
      simp only [remainingIn, hpipe, Array.getElem?_setIfInBounds_self_of_lt hid,
        Option.getD_some, List.length_drop, List.length_cons]
      omega
    next => split at hread <;> simp_all
  | .pipe id .writer => simp at hread

theorem remaining_read (s : DescriptorBytes) (limit : Nat) (h : (s.read limit).1.GoesOn) :
    (s.read limit).2.remaining < s.remaining := by
  unfold read at h ⊢
  split at h
  next => simp [ByteReading.GoesOn] at h
  next hdevice =>
    unfold World.read Machine.read at h ⊢
    cases hget : s.world.table.get? s.fd with
    | none =>
      simp only [hget] at h
      split at h <;> simp [ByteReading.GoesOn] at h
    | some held =>
      simp only [hget, hdevice] at h ⊢
      cases hreply : s.world.machine.readFile s.world.table held.file limit with
      | mk reply rest =>
        simp only [hreply] at h ⊢
        cases reply with
        | blocked => simp [ByteReading.GoesOn] at h
        | failed e =>
          dsimp only at h
          split at h <;> simp [ByteReading.GoesOn] at h
        | data bytes =>
          have hne : bytes ≠ [] := h
          cases hf : s.world.machine.opened[held.file]? with
          | none => simp [Machine.readFile, hf] at hreply
          | some f =>
            have hfile : s.file? = some f := by simp [file?, Machine.fileAt?, hget, hf]
            have hnot : isDevice s.world.machine f = false := by simpa [hfile] using hdevice
            obtain ⟨f', hf', hlt⟩ := remaining_readFile hf hnot hreply hne
            have hafter : (DescriptorBytes.mk s.fd { s.world with machine := rest }).file? =
                some f' := by
              simp [file?, Machine.fileAt?, hget, hf']
            simpa [remaining, hfile, hafter] using hlt

instance : ByteSource DescriptorBytes := ⟨read, remaining, remaining_read⟩

end DescriptorBytes

/-- Lines read under a descriptor of the shell, and the bytes already read that
belong to later lines. -/
structure DescriptorLines where
  fd : Descriptor
  buffer : Bytes
  capacity : Nat

namespace DescriptorLines

/-- The number of bytes asked for at a time. -/
def usualCapacity : Nat := 8192

/-- Lines of which none has been read. -/
def ofDescriptor (fd : Descriptor) : DescriptorLines :=
  ⟨fd, [], usualCapacity⟩

/-- The lines as a buffered source, in a world. -/
def buffered (s : DescriptorLines) (w : World) : BufferedLines DescriptorBytes :=
  ⟨⟨s.fd, w⟩, s.buffer, s.capacity⟩

/-- The lines and the world that a buffered source stands for. -/
def ofBuffered (b : BufferedLines DescriptorBytes) : DescriptorLines × World :=
  (⟨b.source.fd, b.buffer, b.capacity⟩, b.source.world)

/-- Reads the next line. -/
def readLine (s : DescriptorLines) (w : World) : LineReading × DescriptorLines × World :=
  let (reading, b) := (s.buffered w).readLine
  (reading, ofBuffered b)

instance : ScriptSource DescriptorLines := ⟨readLine⟩

end DescriptorLines

/-- Lines typed in, read from standard input.  They must be well-formed text, may
erase what they have begun with, and an empty line is shown at their end. -/
structure TypedLines where
  lines : DescriptorLines

namespace TypedLines

/-- Lines of which none has been read. -/
def new : TypedLines :=
  ⟨.ofDescriptor 0⟩

/-- The summary of every failure to read a typed line. -/
def failureSummary : String := "unable to read from the terminal"

/-- Why a line that is no text is refused. -/
def notText : String := "stream did not contain valid UTF-8"

/-- Reads the next line. -/
def readLine (s : TypedLines) (w : World) : LineReading × TypedLines × World :=
  match (s.lines.buffered w).readThrough [] with
  | (.ok [], b) =>
      let (lines, w) := DescriptorLines.ofBuffered b
      (.endOfInput, ⟨lines⟩, (w.write 1 (encode "\n")).2)
  | (.ok line, b) =>
      let (lines, w) := DescriptorLines.ofBuffered b
      match Utf8.decode? (BufferedLines.stripTerminator line) with
      | some text => (.line (Cluster.erase text), ⟨lines⟩, w)
      | none => (.failure ⟨failureSummary, [notText, notText]⟩, ⟨lines⟩, w)
  | (.error message, b) =>
      let (lines, w) := DescriptorLines.ofBuffered b
      (.failure ⟨failureSummary, [message, message]⟩, ⟨lines⟩, w)

instance : ScriptSource TypedLines := ⟨readLine⟩

end TypedLines

end PipeShell

import PipeShell.Proofs.Borrowing
import PipeShell.Proofs.ChildTables

/-!
# The files of the stages

The files that a run of a pipeline opens are numbered in the order in which they are
opened: the input file, then both ends of one pipe after another, then the output
file.  `stageInput` and `stageOutput` say which of them a stage gets, and what is
prepared for a stage leads to these two and to no other.
-/

namespace PipeShell

namespace Pipeline

variable (p : Pipeline) (first : Nat)

/-- The read end of a pipe, when the files before the run have the numbers below
`first`. -/
def pipeReader (i : Nat) : Nat :=
  first + p.input.toList.length + 2 * i

/-- The write end of a pipe. -/
def pipeWriter (i : Nat) : Nat :=
  p.pipeReader first i + 1

/-- The file that a stage gets as its standard input, if it gets one. -/
def stageInput : Nat → Option FileId
  | 0 => p.input.map fun _ ↦ first
  | i + 1 => some (p.pipeReader first i)

/-- The file that a stage gets as its standard output, if it gets one. -/
def stageOutput (i : Nat) : Option FileId :=
  if i + 1 = p.stages.size then p.output.map fun _ ↦ p.pipeReader first i
  else some (p.pipeWriter first i)

theorem pipeReader_succ (i : Nat) :
    p.pipeReader first (i + 1) = p.pipeReader first i + 2 := by
  simp only [pipeReader]
  omega

/-- Of the files of a run a process holds those of its stage, under the numbers 0 and 1,
and if it has become its program it does hold them. -/
structure StageHolds (i : Nat) (q : Process) : Prop where
  mem : ∀ entry ∈ q.table.holdings, entry.2.file < first ∨
    (entry.1 = 0 ∧ p.stageInput first i = some entry.2.file) ∨
    (entry.1 = 1 ∧ p.stageOutput first i = some entry.2.file)
  input : q.ended = none → ∀ file, p.stageInput first i = some file →
    q.table.get? 0 = some ⟨file, false⟩
  output : q.ended = none → ∀ file, p.stageOutput first i = some file →
    q.table.get? 1 = some ⟨file, false⟩

end Pipeline

/-! ## Taking back what was prepared -/

theorem filter_ne_of_nodup {fd : Descriptor} {x : Holding}
    {before behind : List (Descriptor × Holding)}
    (h : ((before ++ [(fd, x)] ++ behind).map Prod.fst).Nodup) :
    (before ++ [(fd, x)] ++ behind).filter (·.1 != fd) = before ++ behind := by
  rw [List.append_assoc, List.singleton_append] at h ⊢
  obtain ⟨-, hnodup, hapart⟩ := List.nodup_append.1 (List.map_append ▸ h)
  obtain ⟨hbehind, -⟩ := List.nodup_cons.1 hnodup
  have hkeptBefore : before.filter (·.1 != fd) = before := by
    refine List.filter_eq_self.2 fun entry hentry ↦ bne_iff_ne.2 ?_
    exact hapart _ (List.mem_map_of_mem hentry) _ List.mem_cons_self
  have hkeptBehind : behind.filter (·.1 != fd) = behind := by
    refine List.filter_eq_self.2 fun entry hentry ↦ bne_iff_ne.2 fun heq ↦ hbehind ?_
    exact List.mem_map.2 ⟨entry, hentry, heq⟩
  rw [List.filter_append, List.filter_cons_of_neg (by simp), hkeptBefore, hkeptBehind]

theorem World.Borrows.release {w₀ w : World} {e : Endpoint} {file? : Option FileId}
    {before held behind : List (Descriptor × Holding)} (he : e.Leads file? held)
    (h : w₀.Borrows (before ++ held ++ behind) w) :
    w₀.Borrows (before ++ behind) (e.release w) := by
  cases he with
  | inherited => simpa [Endpoint.release] using h
  | descriptor fd file =>
      have hmem : fd ∈ (before ++ [(fd, Holding.mk file true)] ++ behind).map Prod.fst := by simp
      have hclosed := h.close hmem
      rwa [filter_ne_of_nodup h.lends.nodup] at hclosed

/-- The shell holds what a stage gets, and keeps the stray end. -/
structure StageEnds.Prepared (ends : StageEnds) (w₀ : World) (input output : Option FileId)
    (inputHeld outputHeld stray : List (Descriptor × Holding)) (w : World) : Prop where
  input : ends.input.Leads input inputHeld
  output : ends.output.Leads output outputHeld
  kept : ends.stray.toList = stray.map Prod.fst
  borrows : w₀.Borrows (outputHeld ++ stray ++ inputHeld) w

theorem Endpoint.Leads.eq_of_mem {e : Endpoint} {file? : Option FileId}
    {held : List (Descriptor × Holding)} (he : e.Leads file? held)
    {entry : Descriptor × Holding} (hentry : entry ∈ held) :
    e = .descriptor entry.1 ∧ file? = some entry.2.file ∧ held = [entry] := by
  cases he with
  | inherited => cases hentry
  | descriptor fd file =>
      obtain rfl := List.mem_singleton.1 hentry
      exact ⟨rfl, rfl, rfl⟩

theorem Endpoint.Leads.exists_file {fd : Descriptor} {file? : Option FileId}
    {held : List (Descriptor × Holding)} (he : (Endpoint.descriptor fd).Leads file? held) :
    ∃ file, file? = some file ∧ held = [(fd, ⟨file, true⟩)] := by
  cases he with
  | descriptor fd file => exact ⟨file, rfl, rfl⟩

namespace StageEnds.Prepared

variable {ends : StageEnds} {w₀ w w' : World} {input output : Option FileId}
  {inputHeld outputHeld stray : List (Descriptor × Holding)}

/-- Of what was prepared the shell gives up all but the stray end. -/
theorem release (h : ends.Prepared w₀ input output inputHeld outputHeld stray w)
    (hlater : w₀.Borrows (outputHeld ++ stray ++ inputHeld) w') :
    w₀.Borrows stray (ends.release w') := by
  have hinput : w₀.Borrows (outputHeld ++ stray ++ []) (ends.input.release w') :=
    World.Borrows.release h.input (by simpa using hlater)
  have houtput : w₀.Borrows ([] ++ stray) (ends.output.release (ends.input.release w')) :=
    World.Borrows.release h.output (by simpa using hinput)
  exact houtput

theorem number_ne (h : ends.Prepared w₀ input output inputHeld outputHeld stray w)
    {slot : Descriptor} (hslot : (w₀.table.get? slot).isSome) :
    ∀ entry ∈ outputHeld ++ stray ++ inputHeld, entry.1 ≠ slot := by
  rintro entry hentry rfl
  rw [h.borrows.lends.fresh entry hentry] at hslot
  cases hslot

/-- The stray end is not among what the stage gets, nor is its input its output. -/
theorem rewires (h : ends.Prepared w₀ input output inputHeld outputHeld stray w)
    (hzero : (w₀.table.get? 0).isSome) (hone : (w₀.table.get? 1).isSome) :
    ∃ t, Table.rewire ends w.table = .ok t ∧
      w.table.Rewires ((outputHeld ++ inputHeld ++ stray).map Prod.fst) input output t := by
  have hne_zero := h.number_ne hzero
  have hne_one := h.number_ne hone
  rw [List.map_append, ← h.kept]
  refine Table.exists_rewire h.input h.output (fun entry hentry ↦ ?_) ?_ ?_
  · have hmem : entry ∈ outputHeld ++ stray ++ inputHeld := by
      simp only [List.mem_append] at hentry ⊢
      exact hentry.imp_left .inl
    exact ⟨h.borrows.lends.get? hmem, hne_zero entry hmem, hne_one entry hmem⟩
  · intro entry hentry entry' hentry' heq
    obtain ⟨-, -, hapart⟩ := List.nodup_append.1 (List.map_append ▸ h.borrows.lends.nodup)
    have hentry' : entry' ∈ outputHeld ++ stray := List.mem_append_left _ hentry'
    exact hapart _ (List.mem_map_of_mem hentry') _ (List.mem_map_of_mem hentry) heq.symm
  · intro fd hfd
    have hstray : fd ∈ stray.map Prod.fst := by
      rw [← h.kept, hfd]
      exact List.mem_singleton_self fd
    obtain ⟨entry, hentry, rfl⟩ := List.mem_map.1 hstray
    have hmem : entry ∈ outputHeld ++ stray ++ inputHeld :=
      List.mem_append_left _ (List.mem_append_right _ hentry)
    exact ⟨hne_zero entry hmem, hne_one entry hmem⟩

/-- A stage that has been rewired or has ended holds none of the descriptors of the run but
its own. -/
theorem stageHolds {p : Pipeline} {first i : Nat} {q : Process}
    (h : ends.Prepared w₀ (p.stageInput first i) (p.stageOutput first i) inputHeld outputHeld
      stray w)
    (hzero : (w₀.table.get? 0).isSome) (hone : (w₀.table.get? 1).isSome)
    (hfirst : ∀ entry ∈ w₀.table.holdings, entry.2.file < first)
    (hstarts : w.Starts (Table.rewire ends) q w') : p.StageHolds first i q := by
  obtain ⟨t, hrewire, hrewires⟩ := h.rewires hzero hone
  rcases hstarts.process with ⟨htable, hended⟩ | ⟨-, hinherits⟩
  · rw [Table.empty] at htable
    exact ⟨by simp [htable], fun hgoes ↦ absurd hgoes hended, fun hgoes ↦ absurd hgoes hended⟩
  · have hmem : ∀ entry ∈ t.holdings, entry.2.file < first ∨
        (entry.1 = 0 ∧ p.stageInput first i = some entry.2.file) ∨
        (entry.1 = 1 ∧ p.stageOutput first i = some entry.2.file) := by
      intro entry hentry
      rcases hrewires.mem entry hentry with ⟨hentry, hgiven⟩ | ⟨file, hfile, rfl⟩ |
        ⟨file, hfile, rfl⟩
      · rw [h.borrows.lends.eq] at hentry
        rcases List.mem_append.1 hentry with hentry | hentry
        · refine absurd (List.mem_map_of_mem ?_) hgiven
          simp only [List.mem_append] at hentry ⊢
          rcases hentry with (hentry | hentry) | hentry
          · exact .inl (.inl hentry)
          · exact .inr hentry
          · exact .inl (.inr hentry)
        · exact .inl (hfirst entry hentry)
      · exact .inr (.inl ⟨rfl, hfile⟩)
      · exact .inr (.inr ⟨rfl, hfile⟩)
    rcases (World.inherits_iff hrewire).1 hinherits with htable | htable
    · refine ⟨fun entry hentry ↦ ?_, fun _ file hfile ↦ ?_, fun _ file hfile ↦ ?_⟩
      · exact hmem entry (htable ▸ hentry)
      · rw [htable]
        exact hrewires.zero file hfile
      · rw [htable]
        exact hrewires.one file hfile
    · refine ⟨fun entry hentry ↦ ?_, fun _ file hfile ↦ ?_, fun _ file hfile ↦ ?_⟩
      · rw [htable] at hentry
        exact hmem entry (Table.mem_afterExec.1 hentry).1
      · rw [htable]
        exact Table.get?_afterExec (hrewires.zero file hfile) rfl
      · rw [htable]
        exact Table.get?_afterExec (hrewires.one file hfile) rfl

end StageEnds.Prepared

end PipeShell

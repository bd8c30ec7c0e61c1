import PipeShell.Proofs.NoLeaks

/-!
# Ends of pipes

In a sound world every descriptor stands for an open file and every open end belongs to
a pipe that has been made.  Requests keep it so.  A new pipe has one end of each kind,
and a file that is opened is an end of a pipe only where its path leads to a descriptor
that is one; what is opened for reading is then a read end, and for writing a write end.
-/

namespace PipeShell

namespace Machine

variable {m m' : Machine}

theorem sameFiles_readFile (m : Machine) (shell : Table) (file : FileId) (limit : Nat) :
    SameFiles m (m.readFile shell file limit).2 := by
  unfold readFile
  split
  next id access offset appends hopened =>
    split
    · exact .refl m
    split
    · exact ⟨rfl, by simp, rfl, isEnd_setIfInBounds hopened⟩
    all_goals exact .refl m
  next id hopened =>
    split
    · exact ⟨rfl, rfl, by simp, fun _ _ _ ↦ rfl⟩
    · split <;> exact .refl m
  next => exact .refl m

theorem sameFiles_read (m : Machine) (shell t : Table) (fd : Descriptor) (limit : Nat) :
    SameFiles m (m.read shell t fd limit).2 := by
  unfold read
  split
  · exact m.sameFiles_readFile shell _ limit
  · exact .refl m

theorem isEnd_eq_true_iff {pipe : PipeId} {side : PipeEnd} {file : FileId} :
    m.isEnd pipe side file = true ↔ m.opened[file]? = some (.pipe pipe side) := by
  rw [isEnd, beq_iff_eq]

theorem held_eq_true_iff {shell : Table} {pipe : PipeId} {side : PipeEnd} :
    m.held shell pipe side = true ↔
      (∃ entry ∈ shell.holdings, m.isEnd pipe side entry.2.file = true) ∨
        ∃ q ∈ m.processes, ∃ entry ∈ q.table.holdings, m.isEnd pipe side entry.2.file = true := by
  simp only [held, Table.holds, Bool.or_eq_true, List.any_eq_true, Array.any_eq_true']

theorem SameFiles.held_eq (h : m.SameFiles m') (shell : Table) (pipe : PipeId)
    (side : PipeEnd) : m'.held shell pipe side = m.held shell pipe side := by
  have hisEnd : m'.isEnd pipe side = m.isEnd pipe side := funext (h.isEnd pipe side)
  rw [held, held, hisEnd, h.processes]

/-- Nobody can read what would be written. -/
theorem write_broken {shell t : Table} {pipe : PipeId} {fd : Descriptor} (bytes : Bytes)
    (hfile : m.fileAt? t fd = some (.pipe pipe .writer))
    (hheld : m.held shell pipe .reader = false) :
    (m.write shell t fd bytes).1 = .broken := by
  obtain ⟨h, hget, hopened⟩ := Option.bind_eq_some_iff.1 hfile
  simp [write, hget, writeFile, hopened, hheld]

/-! ## What is opened -/

/-- One open file more, under the next number. -/
structure Pushes (m : Machine) (f : OpenFile) (m' : Machine) : Prop where
  opened : m'.opened = m.opened.push f
  pipes : m'.pipes = m.pipes
  processes : m'.processes = m.processes

/-- What opening gives: a node from its beginning, or one more end of a pipe of which an
end is open. -/
inductive Reopens (m : Machine) (access : Access) : OpenFile → Prop where
  | node (id : NodeId) : Reopens m access (.node id access 0 false)
  | pipe {file : FileId} {pipe : PipeId} {side : PipeEnd}
      (h : m.opened[file]? = some (.pipe pipe side)) :
      Reopens m access (.pipe pipe (if access.writes then .writer else .reader))

theorem pushes_addFile_emptied (m : Machine) (empties : Bool) (id : NodeId) (f : OpenFile) :
    Pushes m f ((if empties then m.emptied id else m).addFile f).2 := by
  cases empties with
  | false => exact ⟨rfl, rfl, rfl⟩
  | true =>
      rw [if_pos rfl, emptied]
      split <;> exact ⟨rfl, rfl, rfl⟩

theorem exists_pushes_openNode {t : Table} {id : NodeId} {access : Access} {empties : Bool}
    {file : FileId} (h : m.openNode t id access empties false = .ok (file, m')) :
    ∃ f, m.Pushes f m' ∧ m.Reopens access f := by
  unfold openNode at h
  dsimp only at h
  split at h
  next =>
    split at h
    next id' _ _ _ _ =>
      cases h
      exact ⟨_, m.pushes_addFile_emptied empties id' _, .node id'⟩
    next pipe side hfile =>
      cases h
      obtain ⟨held, -, hopened⟩ := Option.bind_eq_some_iff.1 hfile
      exact ⟨_, ⟨rfl, rfl, rfl⟩, .pipe hopened⟩
    next => cases h
  next =>
    cases h
    exact ⟨_, m.pushes_addFile_emptied empties id _, .node id⟩

end Machine

def Purpose.access : Purpose → Access
  | .reading => .read
  | .writing => .write

/-- The end of a pipe that a redirection can lead to. -/
def Purpose.side : Purpose → PipeEnd
  | .reading => .reader
  | .writing => .writer

namespace Machine

variable {m m' : Machine}

theorem exists_pushes_mode {t : Table} {mask : Nat} {cwd : NodeId} {path : String}
    {purpose : Purpose} {file : FileId}
    (h : m.openFile t mask cwd path purpose.mode = .ok (file, m')) :
    ∃ f, m.Pushes f m' ∧ m.Reopens purpose.access f := by
  cases purpose with
  | reading =>
      obtain ⟨id, -, h⟩ := exists_of_bind_eq_ok h
      split at h
      · cases h
      · exact exists_pushes_openNode h
  | writing =>
      obtain ⟨⟨id, m₁⟩, hmade, h⟩ := exists_of_bind_eq_ok h
      obtain ⟨⟨id, tree⟩, -, hmade⟩ := exists_of_bind_eq_ok hmade
      cases hmade
      obtain ⟨f, ⟨hopened, hpipes, hprocesses⟩, hreopens⟩ := exists_pushes_openNode h
      refine ⟨f, ⟨hopened, hpipes, hprocesses⟩, ?_⟩
      cases hreopens with
      | node id => exact .node id
      | pipe h => exact .pipe h

theorem Pushes.size (h : m.Pushes f m') : m'.opened.size = m.opened.size + 1 := by
  rw [h.opened, Array.size_push]

theorem Pushes.isEnd_iff {f : OpenFile} (h : m.Pushes f m') {pipe : PipeId} {side : PipeEnd}
    {file : FileId} : m'.isEnd pipe side file = true ↔
      m.isEnd pipe side file = true ∨ file = m.opened.size ∧ f = .pipe pipe side := by
  simp only [isEnd_eq_true_iff, h.opened, Array.getElem?_push]
  by_cases hfile : file = m.opened.size <;> simp [hfile]

/-- A new pipe has its two ends, and these are no ends of other pipes. -/
theorem isEnd_makePipe_iff {pipe : PipeId} {side : PipeEnd} {file : FileId} :
    m.makePipe.2.2.isEnd pipe side file = true ↔ m.isEnd pipe side file = true ∨
      pipe = m.pipes.size ∧ (side = .reader ∧ file = m.opened.size ∨
        side = .writer ∧ file = m.opened.size + 1) := by
  simp only [isEnd_eq_true_iff, makePipe, Array.getElem?_push, Array.size_push]
  by_cases hwriter : file = m.opened.size + 1
  · subst hwriter
    simp [eq_comm, and_comm]
  by_cases hreader : file = m.opened.size
  · subst hreader
    simp [eq_comm, and_comm]
  · simp [hwriter, hreader]

end Machine

namespace World

/-- Descriptors stand for open files, and open ends belong to pipes. -/
structure Sound (w : World) : Prop where
  holdsOpened : w.HoldsOpened
  made : ∀ pipe side file, w.machine.isEnd pipe side file = true → pipe < w.machine.pipes.size

/-- So it is when there are neither processes nor pipes. -/
theorem sound_of_nodes {w : World} (hprocesses : w.machine.processes = #[])
    (hshell : ∀ entry ∈ w.table.holdings, entry.2.file < w.machine.opened.size)
    (hnodes : ∀ pipe side, OpenFile.pipe pipe side ∉ w.machine.opened) : w.Sound := by
  refine ⟨⟨hshell, fun q hq ↦ ?_⟩, fun pipe side file hend ↦ ?_⟩
  · rw [hprocesses] at hq
    exact absurd hq (Array.not_mem_empty q)
  · have hopened := Machine.isEnd_eq_true_iff.1 hend
    exact absurd (Array.mem_of_getElem? hopened) (hnodes pipe side)

/-- So it is in a world in which nothing has happened yet. -/
theorem sound_scratch (programs : List (String × (List String → Environment → Program)))
    (environment : Environment) (entries : List Entry) (input : Bytes) :
    (Scratch.new programs environment entries input).2.Sound :=
  sound_of_nodes rfl (holdsOpened_scratch programs environment entries input).shell
    fun _ _ ↦ by simp [Scratch.new]

variable {w w' : World}

theorem Sound.of_sameFiles (h : w.Sound) (hfiles : w.machine.SameFiles w'.machine)
    (htable : w'.table.holdings ⊆ w.table.holdings) : w'.Sound := by
  obtain ⟨⟨hshell, hprocesses⟩, hmade⟩ := h
  refine ⟨⟨fun entry hentry ↦ ?_, fun q hq entry hentry ↦ ?_⟩, fun pipe side file hend ↦ ?_⟩
  · rw [hfiles.opened]
    exact hshell entry (htable hentry)
  · rw [hfiles.opened]
    rw [hfiles.processes] at hq
    exact hprocesses q hq entry hentry
  · rw [hfiles.pipes]
    rw [hfiles.isEnd] at hend
    exact hmade pipe side file hend

theorem holdings_close_subset (w : World) (fd : Descriptor) :
    (w.close fd).table.holdings ⊆ w.table.holdings := by
  unfold close
  split
  next table hclose =>
    unfold Table.close at hclose
    split at hclose
    · cases hclose
      exact fun entry hentry ↦ (Table.mem_erase.1 hentry).1
    · cases hclose
  next => exact fun _ hentry ↦ hentry

theorem Sound.close (h : w.Sound) (fd : Descriptor) : (w.close fd).Sound := by
  refine h.of_sameFiles ?_ (w.holdings_close_subset fd)
  rw [machine_close]
  exact .refl w.machine

/-- What closing keeps is kept when the descriptors of a stage are given up. -/
theorem release_of_close {P : World → Prop} (hclose : ∀ w fd, P w → P (w.close fd))
    (ends : StageEnds) (h : P w) : P (ends.release w) := by
  have hendpoint : ∀ (e : Endpoint) w, P w → P (e.release w) := by
    intro e w hw
    cases e with
    | inherited => exact hw
    | descriptor fd => exact hclose w fd hw
  exact hendpoint ends.output _ (hendpoint ends.input w h)

theorem Sound.release (h : w.Sound) (ends : StageEnds) : (ends.release w).Sound :=
  release_of_close (fun _ fd hw ↦ hw.close fd) ends h

theorem Sound.openFile (h : w.Sound) {path : String} {purpose : Purpose} {fd : Descriptor}
    (hopen : w.openFile path purpose.mode = .ok (fd, w')) : w'.Sound := by
  obtain ⟨file, machine, hmachine, rfl, rfl⟩ := openFile_eq_ok hopen
  have hfile := (Machine.opens_mode hmachine).file_eq
  obtain ⟨f, hpushes, hreopens⟩ := Machine.exists_pushes_mode hmachine
  obtain ⟨⟨hshell, hprocesses⟩, hmade⟩ := h
  have hsize := hpushes.size
  refine ⟨⟨fun entry hentry ↦ ?_, fun q hq entry hentry ↦ ?_⟩, fun pipe side g hend ↦ ?_⟩
  · change entry.2.file < machine.opened.size
    rw [hsize]
    rcases Table.mem_set hentry with rfl | hentry
    · exact Nat.lt_succ_of_le (Nat.le_of_eq hfile)
    · exact Nat.lt_succ_of_lt (hshell entry hentry)
  · change q ∈ machine.processes at hq
    change entry.2.file < machine.opened.size
    rw [hpushes.processes] at hq
    rw [hsize]
    exact Nat.lt_succ_of_lt (hprocesses q hq entry hentry)
  · change machine.isEnd pipe side g = true at hend
    change pipe < machine.pipes.size
    rw [hpushes.pipes]
    rcases hpushes.isEnd_iff.1 hend with hend | ⟨-, rfl⟩
    · exact hmade pipe side g hend
    · cases hreopens with
      | pipe hopened => exact hmade pipe _ _ (Machine.isEnd_eq_true_iff.2 hopened)

theorem Sound.pipe (h : w.Sound) : w.makePipe.2.2.Sound := by
  obtain ⟨⟨hshell, hprocesses⟩, hmade⟩ := h
  refine ⟨⟨fun entry hentry ↦ ?_, fun q hq entry hentry ↦ ?_⟩, fun pipe side g hend ↦ ?_⟩
  · change entry.2.file < w.machine.makePipe.2.2.opened.size
    rw [Machine.size_opened_makePipe]
    rcases Table.mem_set hentry with rfl | hentry
    · exact Nat.lt_succ_self _
    rcases Table.mem_set hentry with rfl | hentry
    · exact Nat.lt_succ_of_lt (Nat.lt_succ_self _)
    · exact Nat.lt_add_right 2 (hshell entry hentry)
  · change entry.2.file < w.machine.makePipe.2.2.opened.size
    rw [Machine.size_opened_makePipe]
    exact Nat.lt_add_right 2 (hprocesses q hq entry hentry)
  · change pipe < w.machine.makePipe.2.2.pipes.size
    rw [Machine.size_pipes_makePipe]
    rcases Machine.isEnd_makePipe_iff.1 hend with hend | ⟨rfl, -⟩
    · exact Nat.lt_succ_of_lt (hmade pipe side g hend)
    · exact Nat.lt_succ_self _

end World

/-! ## In a process of its own -/

namespace Table

variable {t t' : Table} {e : Endpoint} {slot fd : Descriptor} {file : FileId}

/-- What is new in a table after an endpoint has been moved is the endpoint's file, under
the number of the standard stream. -/
theorem mem_redirect (h : t.redirect e slot = .ok t') {entry : Descriptor × Holding}
    (hentry : entry ∈ t'.holdings) : entry ∈ t.holdings ∨
      ∃ fd x, e = .descriptor fd ∧ (fd, x) ∈ t.holdings ∧ entry = (slot, ⟨x.file, false⟩) := by
  cases e with
  | inherited =>
      cases h
      exact .inl hentry
  | descriptor fd =>
      simp only [redirect] at h
      split at h
      · cases h
        exact .inl hentry
      obtain ⟨t₁, hduplicate, hclose⟩ := exists_of_bind_eq_ok h
      unfold duplicate at hduplicate
      split at hduplicate
      next x hget =>
        cases hduplicate
        unfold close at hclose
        split at hclose
        · cases hclose
          rcases mem_set (mem_erase.1 hentry).1 with rfl | hentry
          · exact .inr ⟨fd, x, rfl, mem_of_get? hget, rfl⟩
          · exact .inl hentry
        · cases hclose
      next => cases hduplicate

theorem exists_of_rewire {ends : StageEnds} (h : rewire ends t = .ok t') :
    ∃ t₁ t₂, t.redirect ends.input 0 = .ok t₁ ∧ t₁.redirect ends.output 1 = .ok t₂ ∧
      t'.holdings ⊆ t₂.holdings := by
  obtain ⟨t₁, hfirst, h⟩ := exists_of_bind_eq_ok h
  obtain ⟨t₂, hsecond, h⟩ := exists_of_bind_eq_ok h
  refine ⟨t₁, t₂, hfirst, hsecond, fun entry hentry ↦ ?_⟩
  split at h <;> cases h
  · exact (mem_erase.1 hentry).1
  · exact hentry

theorem exists_mem_of_redirect (h : t.redirect e slot = .ok t') {entry : Descriptor × Holding}
    (hentry : entry ∈ t'.holdings) : ∃ entry' ∈ t.holdings, entry'.2.file = entry.2.file := by
  rcases mem_redirect h hentry with hentry | ⟨fd, x, -, hmem, rfl⟩
  · exact ⟨entry, hentry, rfl⟩
  · exact ⟨(fd, x), hmem, rfl⟩

/-- Rewiring brings no file into a table that was not in it. -/
theorem exists_mem_of_rewire {ends : StageEnds} (h : rewire ends t = .ok t')
    {entry : Descriptor × Holding} (hentry : entry ∈ t'.holdings) :
    ∃ entry' ∈ t.holdings, entry'.2.file = entry.2.file := by
  obtain ⟨t₁, t₂, hfirst, hsecond, hsubset⟩ := exists_of_rewire h
  obtain ⟨entry₁, hentry₁, hfile₁⟩ := exists_mem_of_redirect hsecond (hsubset hentry)
  obtain ⟨entry₀, hentry₀, hfile₀⟩ := exists_mem_of_redirect hfirst hentry₁
  exact ⟨entry₀, hentry₀, hfile₀.trans hfile₁⟩

/-- An open file is held under one number at most, and given up when the process goes on
as another program. -/
def Guards (t : Table) (file : FileId) (fd : Descriptor) : Prop :=
  ∀ entry ∈ t.holdings, entry.2.file = file → entry = (fd, ⟨file, true⟩)

theorem Guards.redirect (h : t.Guards file fd) (he : e ≠ .descriptor fd)
    (ht : t.redirect e slot = .ok t') : t'.Guards file fd := by
  intro entry hentry hfile
  rcases mem_redirect ht hentry with hentry | ⟨fd', x, rfl, hmem, rfl⟩
  · exact h entry hentry hfile
  · obtain ⟨rfl, -⟩ := Prod.mk.inj (h _ hmem hfile)
    exact absurd rfl he

/-- Rewiring takes away what is guarded under the stray number, unless the stage is started
with it. -/
theorem Guards.notMem_rewire {ends : StageEnds} (h : t.Guards file fd)
    (hstray : ends.stray = some fd) (hinput : ends.input ≠ .descriptor fd)
    (houtput : ends.output ≠ .descriptor fd) (ht : rewire ends t = .ok t') :
    ∀ entry ∈ t'.holdings, entry.2.file ≠ file := by
  obtain ⟨t₁, hfirst, ht⟩ := exists_of_bind_eq_ok ht
  obtain ⟨t₂, hsecond, ht⟩ := exists_of_bind_eq_ok ht
  rw [hstray] at ht
  cases ht
  have hguards : t₂.Guards file fd := (h.redirect hinput hfirst).redirect houtput hsecond
  intro entry hentry hfile
  obtain ⟨hentry, hne⟩ := mem_erase.1 hentry
  exact hne (congrArg Prod.fst (hguards entry hentry hfile))

end Table

/-- A process that has been started holds no file that the shell does not hold. -/
theorem World.Starts.exists_mem {w w' : World} {ends : StageEnds} {q : Process}
    (h : w.Starts (Table.rewire ends) q w') {entry : Descriptor × Holding}
    (hentry : entry ∈ q.table.holdings) :
    ∃ entry' ∈ w.table.holdings, entry'.2.file = entry.2.file := by
  rcases h.process with ⟨htable, -⟩ | ⟨-, hinherits⟩
  · rw [htable] at hentry
    cases hentry
  unfold Inherits at hinherits
  split at hinherits
  next =>
    rw [hinherits] at hentry
    exact ⟨entry, hentry, rfl⟩
  next table hrewire =>
    rcases hinherits with htable | htable
    · rw [htable] at hentry
      exact Table.exists_mem_of_rewire hrewire hentry
    · rw [htable] at hentry
      exact Table.exists_mem_of_rewire hrewire (Table.mem_afterExec.1 hentry).1

theorem World.Sound.start {w w' : World} (h : w.Sound) {ends : StageEnds} {q : Process}
    (hstarts : w.Starts (Table.rewire ends) q w') : w'.Sound := by
  obtain ⟨⟨hshell, hprocesses⟩, hmade⟩ := h
  refine ⟨⟨fun entry hentry ↦ ?_, fun q' hq' entry hentry ↦ ?_⟩, fun pipe side g hend ↦ ?_⟩
  · rw [hstarts.table] at hentry
    rw [hstarts.opened]
    exact hshell entry hentry
  · rw [hstarts.processes] at hq'
    rw [hstarts.opened]
    rcases Array.mem_push.1 hq' with hq' | rfl
    · exact hprocesses q' hq' entry hentry
    obtain ⟨entry', hentry', hfile⟩ := hstarts.exists_mem hentry
    rw [← hfile]
    exact hshell entry' hentry'
  · rw [hstarts.isEnd] at hend
    rw [hstarts.pipes]
    exact hmade pipe side g hend

end PipeShell

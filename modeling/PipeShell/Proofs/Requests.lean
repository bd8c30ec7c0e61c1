import PipeShell.System.World

/-!
# What requests leave alone

Each request of the shell changes little of its world.  The lemmas here say what:
which open files a request adds, that the ends of pipes stay what they are, that
starting a process adds one and waiting adds none, and which request is noted.
How the processes themselves get on is no concern of this module.
-/

namespace PipeShell

/-- A computation that goes through goes through in its first part. -/
theorem exists_of_bind_eq_ok {ε : Type u} {α β : Type v} {x : Except ε α}
    {f : α → Except ε β} {b : β} (h : x >>= f = .ok b) : ∃ a, x = .ok a ∧ f a = .ok b := by
  cases x with
  | error e => cases h
  | ok a => exact ⟨a, rfl, h⟩

/-- What a read gave. -/
def ReadReply.bytes : ReadReply → Bytes
  | .data bytes => bytes
  | _ => []

namespace Machine

/-- Nothing is opened, started or ended, and the ends of pipes stay what they are. -/
structure SameFiles (m m' : Machine) : Prop where
  processes : m'.processes = m.processes
  opened : m'.opened.size = m.opened.size
  pipes : m'.pipes.size = m.pipes.size
  isEnd : ∀ pipe side file, m'.isEnd pipe side file = m.isEnd pipe side file

theorem SameFiles.refl (m : Machine) : SameFiles m m :=
  ⟨rfl, rfl, rfl, fun _ _ _ ↦ rfl⟩

theorem SameFiles.trans {m m' m'' : Machine} (h : SameFiles m m') (h' : SameFiles m' m'') :
    SameFiles m m'' :=
  ⟨h'.processes.trans h.processes, h'.opened.trans h.opened, h'.pipes.trans h.pipes,
    fun pipe side file ↦ (h'.isEnd pipe side file).trans (h.isEnd pipe side file)⟩

/-- Moving the place of an open file leaves the ends of pipes what they are. -/
theorem isEnd_setIfInBounds {m : Machine} {file : FileId} {id id' : NodeId}
    {access access' : Access} {offset offset' : Nat} {appends appends' : Bool}
    (h : m.opened[file]? = some (.node id access offset appends)) (pipe : PipeId)
    (side : PipeEnd) (f : FileId) :
    ((m.opened.setIfInBounds file (.node id' access' offset' appends'))[f]? ==
      some (OpenFile.pipe pipe side)) = m.isEnd pipe side f := by
  obtain ⟨hfile, -⟩ := Array.getElem?_eq_some_iff.1 h
  unfold isEnd
  by_cases hf : file = f
  · subst hf
    rw [Array.getElem?_setIfInBounds_self_of_lt hfile, h]
    rfl
  · rw [Array.getElem?_setIfInBounds_ne hf]

theorem sameFiles_writeFile (m : Machine) (shell : Table) (file : FileId) (bytes : Bytes) :
    SameFiles m (m.writeFile shell file bytes).2 := by
  unfold writeFile
  split
  next id access offset appends hopened =>
    split
    · exact .refl m
    split
    next data permissions hnode =>
      exact ⟨rfl, by simp, rfl, isEnd_setIfInBounds hopened⟩
    all_goals exact .refl m
  next id hopened =>
    split
    · exact .refl m
    split
    next under hpipe =>
      dsimp only
      split
      · exact .refl m
      · exact ⟨rfl, rfl, by simp, fun _ _ _ ↦ rfl⟩
    next => exact .refl m
  next => exact .refl m

theorem sameFiles_write (m : Machine) (shell t : Table) (fd : Descriptor) (bytes : Bytes) :
    SameFiles m (m.write shell t fd bytes).2 := by
  unfold write
  split
  · exact m.sameFiles_writeFile shell _ bytes
  · exact .refl m

theorem sameFiles_say (m : Machine) (shell : Table) (p : Process) (parts : List Bytes) :
    SameFiles m (m.say shell p parts).2 := by
  induction parts generalizing m with
  | nil => exact .refl m
  | cons part rest ih =>
      have hwrite := m.sameFiles_write shell p.table 2 part
      unfold say
      split
      next hreply =>
        rw [hreply] at hwrite
        split
        · exact hwrite
        · exact hwrite.trans (ih _)
      next hreply =>
        rw [hreply] at hwrite
        exact hwrite
      next hreply =>
        rw [hreply] at hwrite
        split
        · exact hwrite.trans (ih _)
        · exact hwrite
      next hreply =>
        rw [hreply] at hwrite
        exact hwrite.trans (ih _)

/-- A process that says something has ended when it is at the end, or it holds what it held
and has more to say. -/
theorem say_process (m : Machine) (shell : Table) (p : Process) (parts : List Bytes) :
    (∃ status, (m.say shell p parts).1 = p.finished status) ∨
      ∃ rest, (m.say shell p parts).1 = { p with program := .saying rest } := by
  induction parts generalizing m with
  | nil => exact .inl ⟨_, rfl⟩
  | cons part rest ih =>
      unfold say
      split
      · split
        · exact .inr ⟨_, rfl⟩
        · exact ih _
      · exact .inr ⟨_, rfl⟩
      · split
        · exact ih _
        · exact .inl ⟨_, rfl⟩
      · exact ih _

/-- One file is opened, under the next number; all else stays as in `SameFiles`. -/
structure Opens (m : Machine) (file : FileId) (m' : Machine) : Prop where
  file_eq : file = m.opened.size
  processes : m'.processes = m.processes
  opened : m'.opened.size = m.opened.size + 1
  pipes : m'.pipes.size = m.pipes.size
  isEnd : ∀ pipe side f, f < m.opened.size → m'.isEnd pipe side f = m.isEnd pipe side f

theorem opens_addFile (m : Machine) (f : OpenFile) : Opens m (m.addFile f).1 (m.addFile f).2 := by
  refine ⟨rfl, rfl, by simp [addFile], rfl, fun pipe side g hg ↦ ?_⟩
  simp [isEnd, addFile, Array.getElem?_push_lt hg, Array.getElem?_eq_getElem hg]

theorem opens_addFile_emptied (m : Machine) (id : NodeId) (f : OpenFile) :
    Opens m ((m.emptied id).addFile f).1 ((m.emptied id).addFile f).2 := by
  unfold emptied
  split
  · obtain ⟨hfile, hprocesses, hopened, hpipes, hisEnd⟩ :=
      opens_addFile { m with tree := m.tree.setNode id (.file [] _) } f
    exact ⟨hfile, hprocesses, hopened, hpipes, hisEnd⟩
  · exact m.opens_addFile f

theorem opens_openNode {m m' : Machine} {t : Table} {id : NodeId} {access : Access}
    {empties appends : Bool} {file : FileId}
    (h : m.openNode t id access empties appends = .ok (file, m')) : Opens m file m' := by
  have hnode : ∀ id, Opens m
      ((if empties then m.emptied id else m).addFile (.node id access 0 appends)).1
      ((if empties then m.emptied id else m).addFile (.node id access 0 appends)).2 := by
    intro id
    cases empties
    · exact m.opens_addFile _
    · exact m.opens_addFile_emptied id _
  unfold openNode at h
  dsimp only at h
  split at h
  · split at h
    · cases h
      exact hnode _
    · cases h
      exact m.opens_addFile _
    · cases h
  · cases h
    exact hnode _

theorem opens_openNode_tree {m m' : Machine} {tree : Tree} {t : Table} {id : NodeId}
    {access : Access} {empties appends : Bool} {file : FileId}
    (h : ({ m with tree } : Machine).openNode t id access empties appends = .ok (file, m')) :
    Opens m file m' := by
  obtain ⟨hfile, hprocesses, hopened, hpipes, hisEnd⟩ := opens_openNode h
  exact ⟨hfile, hprocesses, hopened, hpipes, hisEnd⟩

theorem opens_read {m m' : Machine} {t : Table} {mask : Nat} {cwd : NodeId} {path : String}
    {file : FileId} (h : m.openFile t mask cwd path .read = .ok (file, m')) :
    Opens m file m' := by
  obtain ⟨id, -, h⟩ := exists_of_bind_eq_ok h
  split at h
  · cases h
  · exact opens_openNode h

theorem opens_write {m m' : Machine} {t : Table} {mask : Nat} {cwd : NodeId} {path : String}
    {permissions : Nat} {file : FileId}
    (h : m.openFile t mask cwd path (.write permissions) = .ok (file, m')) :
    Opens m file m' := by
  obtain ⟨⟨id, m₁⟩, hmade, h⟩ := exists_of_bind_eq_ok h
  obtain ⟨⟨id, tree⟩, -, hmade⟩ := exists_of_bind_eq_ok hmade
  cases hmade
  exact opens_openNode_tree h

@[simp] theorem size_opened_makePipe (m : Machine) :
    m.makePipe.2.2.opened.size = m.opened.size + 2 := by
  simp [makePipe]

@[simp] theorem size_pipes_makePipe (m : Machine) :
    m.makePipe.2.2.pipes.size = m.pipes.size + 1 := by
  simp [makePipe]

theorem isEnd_makePipe (m : Machine) (pipe : PipeId) (side : PipeEnd) (f : FileId)
    (hf : f < m.opened.size) : m.makePipe.2.2.isEnd pipe side f = m.isEnd pipe side f := by
  unfold isEnd makePipe
  rw [Array.getElem?_push_lt (by simpa using Nat.lt_succ_of_lt hf), Array.getElem_push_lt hf,
    Array.getElem?_eq_getElem hf]

theorem isEnd_makePipe_reader (m : Machine) :
    m.makePipe.2.2.isEnd m.pipes.size .reader m.opened.size = true := by
  have hlt : m.opened.size < (m.opened.push (.pipe m.pipes.size .reader)).size := by simp
  unfold isEnd makePipe
  rw [Array.getElem?_push_lt hlt, Array.getElem_push_eq]
  exact beq_self_eq_true _

theorem isEnd_makePipe_writer (m : Machine) :
    m.makePipe.2.2.isEnd m.pipes.size .writer (m.opened.size + 1) = true := by
  have hsize : m.opened.size + 1 = (m.opened.push (.pipe m.pipes.size .reader)).size := by simp
  unfold isEnd makePipe
  rw [hsize, Array.getElem?_push_size]
  simp

end Machine

namespace World

/-- A granted request to open a file puts it under the least free number. -/
theorem openFile_eq_ok {w w' : World} {path : String} {mode : OpenMode} {fd : Descriptor}
    (h : w.openFile path mode = .ok (fd, w')) :
    ∃ file machine, w.machine.openFile w.table 0 w.cwd path mode = .ok (file, machine) ∧
      fd = w.table.free 0 ∧
      w' = ({ w with machine, table := w.table.set fd ⟨file, true⟩ } : World).note
        (.opened fd) := by
  obtain ⟨-, -, h⟩ := exists_of_bind_eq_ok h
  split at h
  next file machine hopen =>
    cases h
    exact ⟨file, machine, hopen, rfl, rfl⟩
  next => cases h

/-- What a process holds at its start: what the shell held, rewired if that was possible and,
if the process has become its program, without what is given up. -/
def Inherits (w : World) (rewire : Table → Except Errno Table) (t : Table) : Prop :=
  match rewire w.table with
  | .error _ => t = w.table
  | .ok table => t = table ∨ t = table.afterExec

/-- A process is started; it holds what it has inherited, or it has ended and holds
nothing. -/
structure Starts (w : World) (rewire : Table → Except Errno Table) (q : Process)
    (w' : World) : Prop where
  table : w'.table = w.table
  children : w'.children = w.children ++ [w.machine.processes.size]
  shortage : w'.shortage = w.shortage
  events : w'.events = w.events.push (.started w.machine.processes.size)
  processes : w'.machine.processes = w.machine.processes.push q
  opened : w'.machine.opened.size = w.machine.opened.size
  pipes : w'.machine.pipes.size = w.machine.pipes.size
  isEnd : ∀ pipe side file, w'.machine.isEnd pipe side file = w.machine.isEnd pipe side file
  process : q.table = .empty ∧ q.ended ≠ none ∨ q.ended = none ∧ w.Inherits rewire q.table

variable {w w' : World} {rewire : Table → Except Errno Table} {args : List String}
  {complaint : StartError → List String} {pid : Pid}

theorem inherits_iff {t table : Table} (hrewire : rewire w.table = .ok table) :
    w.Inherits rewire t ↔ t = table ∨ t = table.afterExec := by
  rw [Inherits, hrewire]

theorem inherits_of_error {e : Errno} (hrewire : rewire w.table = .error e) :
    w.Inherits rewire w.table := by
  rw [Inherits, hrewire]

theorem sameFiles_launch (w : World) (rewire : Table → Except Errno Table) (args : List String)
    (complaint : StartError → List String) :
    w.machine.SameFiles (w.launch rewire args complaint).2 := by
  unfold launch
  split
  · exact w.machine.sameFiles_say w.table _ _
  · split
    · exact w.machine.sameFiles_say w.table _ _
    · exact .refl _

theorem launch_process (w : World) (rewire : Table → Except Errno Table) (args : List String)
    (complaint : StartError → List String) :
    let q := (w.launch rewire args complaint).1
    q.table = .empty ∧ q.ended ≠ none ∨ q.ended = none ∧ w.Inherits rewire q.table := by
  unfold launch
  split
  next e hrewire =>
    dsimp only
    rcases w.machine.say_process w.table
      { Process.new w.table w.cwd default with handled := [(Signal.brokenPipe, .ignore)] }
      ((complaint (.streams e)).map encode) with ⟨status, hsay⟩ | ⟨rest, hsay⟩
    · rw [hsay]
      exact .inl ⟨rfl, nofun⟩
    · rw [hsay]
      exact .inr ⟨rfl, inherits_of_error hrewire⟩
  next table hrewire =>
    split
    next e hload =>
      dsimp only
      rcases w.machine.say_process w.table (.new table w.cwd default)
        ((complaint (.program e)).map encode) with ⟨status, hsay⟩ | ⟨rest, hsay⟩
      · rw [hsay]
        exact .inl ⟨rfl, nofun⟩
      · rw [hsay]
        exact .inr ⟨rfl, (inherits_iff hrewire).2 (.inl rfl)⟩
    next program hload =>
      exact .inr ⟨rfl, (inherits_iff hrewire).2 (.inr rfl)⟩

/-- Whatever becomes of it, starting a process adds one, under the next number. -/
theorem starts_of_start (h : w.start rewire args complaint = .ok (pid, w')) :
    pid = w.machine.processes.size ∧
      Starts w rewire (w.launch rewire args complaint).1 w' := by
  have hfiles := w.sameFiles_launch rewire args complaint
  have hprocess := w.launch_process rewire args complaint
  unfold start at h
  generalize w.launch rewire args complaint = launched at h hfiles hprocess ⊢
  obtain ⟨q, machine⟩ := launched
  split at h
  next => cases h
  next =>
    cases h
    have hprocesses : machine.processes = w.machine.processes := hfiles.processes
    refine ⟨congrArg Array.size hprocesses, ?_⟩
    dsimp only [Machine.addProcess]
    rw [hprocesses]
    exact ⟨rfl, rfl, rfl, rfl, rfl, hfiles.opened, hfiles.pipes, hfiles.isEnd, hprocess⟩

/-- A request for a pipe that is granted. -/
theorem pipe_eq_ok {made : Descriptor × Descriptor × World} (h : w.pipe = .ok made) :
    made = w.makePipe := by
  unfold pipe at h
  split at h
  · cases h
  · exact (Except.ok.inj h).symm

end World

end PipeShell

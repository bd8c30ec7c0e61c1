import PipeShell.Execution
import PipeShell.Proofs.StageFiles
import PipeShell.Proofs.WiringAnswers

/-!
# Stage by stage

Between two stages the shell holds at most the read end that it carries over to the
next one.  Preparing a stage, starting it and giving up what it got leads from one
such state to the next, and a stage that cannot be prepared leaves nothing behind.
So when no more stages are started the shell holds what it held before.
-/

namespace PipeShell

namespace Machine

/-- Files may have been opened, but no process has been added and the ends of pipes are
what they were. -/
structure Grows (m m' : Machine) : Prop where
  processes : m'.processes = m.processes
  opened : m.opened.size ≤ m'.opened.size
  isEnd : ∀ pipe side file, file < m.opened.size →
    m'.isEnd pipe side file = m.isEnd pipe side file

theorem Grows.refl (m : Machine) : m.Grows m :=
  ⟨rfl, Nat.le_refl _, fun _ _ _ _ ↦ rfl⟩

theorem Grows.trans {m m' m'' : Machine} (h : m.Grows m') (h' : m'.Grows m'') : m.Grows m'' :=
  ⟨h'.processes.trans h.processes, Nat.le_trans h.opened h'.opened, fun pipe side file hfile ↦
    (h'.isEnd pipe side file (Nat.lt_of_lt_of_le hfile h.opened)).trans
      (h.isEnd pipe side file hfile)⟩

theorem Opens.grows {m m' : Machine} {file : FileId} (h : m.Opens file m') : m.Grows m' :=
  ⟨h.processes, by rw [h.opened]; exact Nat.le_succ _, h.isEnd⟩

theorem grows_makePipe (m : Machine) : m.Grows m.makePipe.2.2 := by
  refine ⟨rfl, ?_, isEnd_makePipe m⟩
  rw [size_opened_makePipe]
  exact Nat.le_add_right _ 2

end Machine

@[simp] theorem World.machine_close (w : World) (fd : Descriptor) :
    (w.close fd).machine = w.machine := by
  unfold close
  split <;> rfl

@[simp] theorem Endpoint.machine_release (e : Endpoint) (w : World) :
    (e.release w).machine = w.machine := by
  cases e with
  | inherited => rfl
  | descriptor fd => exact w.machine_close fd

@[simp] theorem StageEnds.machine_release (ends : StageEnds) (w : World) :
    (ends.release w).machine = w.machine := by
  simp [release]

@[simp] theorem Wiring.machine_release (s : Wiring) (w : World) :
    (s.release w).machine = w.machine := by
  unfold release
  split <;> simp

namespace Pipeline

/-- So many stages have been started, and each holds its own files only. -/
structure Begun (p : Pipeline) (w₀ : World) (started : Nat) (m : Machine) : Prop where
  size : m.processes.size = w₀.machine.processes.size + started
  before : ∀ pid < w₀.machine.processes.size, m.processes[pid]? = w₀.machine.processes[pid]?
  stage : ∀ i < started, ∃ q, m.processes[w₀.machine.processes.size + i]? = some q ∧
    p.StageHolds w₀.machine.opened.size i q

/-- What so many stages need has been opened, under the numbers that it was to have. -/
structure Provided (p : Pipeline) (w₀ : World) (stages : Nat) (m : Machine) : Prop where
  input : 0 < stages → ∀ path, p.input = some path → ∃ m',
    w₀.machine.openFile w₀.table 0 w₀.cwd path .read = .ok (w₀.machine.opened.size, m')
  pipe : ∀ i < stages, i + 1 < p.stages.size →
    p.pipeWriter w₀.machine.opened.size i < m.opened.size ∧
      m.isEnd (w₀.machine.pipes.size + i) .reader (p.pipeReader w₀.machine.opened.size i) ∧
      m.isEnd (w₀.machine.pipes.size + i) .writer (p.pipeWriter w₀.machine.opened.size i)

variable {p : Pipeline} {w₀ : World} {k : Nat}

theorem Begun.zero (p : Pipeline) (w₀ : World) : p.Begun w₀ 0 w₀.machine :=
  ⟨rfl, fun _ _ ↦ rfl, nofun⟩

theorem Begun.grows {m m' : Machine} (h : p.Begun w₀ k m) (hgrows : m.Grows m') :
    p.Begun w₀ k m' := by
  obtain ⟨hsize, hbefore, hstage⟩ := h
  rw [← hgrows.processes] at hsize hbefore hstage
  exact ⟨hsize, hbefore, hstage⟩

/-- One more stage has been started. -/
theorem Begun.push {m m' : Machine} {q : Process} (h : p.Begun w₀ k m)
    (hq : p.StageHolds w₀.machine.opened.size k q)
    (hprocesses : m'.processes = m.processes.push q) : p.Begun w₀ (k + 1) m' := by
  obtain ⟨hsize, hbefore, hstage⟩ := h
  refine ⟨?_, fun pid hpid ↦ ?_, fun i hi ↦ ?_⟩
  · rw [hprocesses, Array.size_push, hsize, Nat.add_assoc]
  · rw [hprocesses, Array.getElem?_push, if_neg (by omega), hbefore pid hpid]
  · rcases Nat.lt_succ_iff_lt_or_eq.1 hi with hi | rfl
    · obtain ⟨q', hq', hholds⟩ := hstage i hi
      refine ⟨q', ?_, hholds⟩
      rw [hprocesses, Array.getElem?_push, if_neg (by omega), hq']
    · refine ⟨q, ?_, hq⟩
      rw [hprocesses, ← hsize, Array.getElem?_push_size]

theorem Provided.zero (p : Pipeline) (w₀ : World) : p.Provided w₀ 0 w₀.machine :=
  ⟨nofun, nofun⟩

/-- What one more stage needs has been opened as well. -/
theorem Provided.succ {m : Machine} (h : p.Provided w₀ k m)
    (hinput : k = 0 → ∀ path, p.input = some path → ∃ m',
      w₀.machine.openFile w₀.table 0 w₀.cwd path .read = .ok (w₀.machine.opened.size, m'))
    (hpipe : k + 1 < p.stages.size → p.pipeWriter w₀.machine.opened.size k < m.opened.size ∧
      m.isEnd (w₀.machine.pipes.size + k) .reader (p.pipeReader w₀.machine.opened.size k) ∧
      m.isEnd (w₀.machine.pipes.size + k) .writer (p.pipeWriter w₀.machine.opened.size k)) :
    p.Provided w₀ (k + 1) m := by
  refine ⟨fun _ ↦ ?_, fun i hi hlast ↦ ?_⟩
  · rcases Nat.eq_zero_or_pos k with hk | hk
    · exact hinput hk
    · exact h.input hk
  · rcases Nat.lt_succ_iff_lt_or_eq.1 hi with hi | rfl
    · exact h.pipe i hi hlast
    · exact hpipe hlast

/-- What is there for one more stage is there for those before it. -/
theorem Provided.of_succ {m : Machine} (h : p.Provided w₀ (k + 1) m) : p.Provided w₀ k m :=
  ⟨fun _ ↦ h.input (Nat.succ_pos k), fun i hi ↦ h.pipe i (Nat.lt_succ_of_lt hi)⟩

theorem Provided.mono {m m' : Machine} (h : p.Provided w₀ k m)
    (hopened : m.opened.size ≤ m'.opened.size)
    (hisEnd : ∀ pipe side file, file < m.opened.size →
      m'.isEnd pipe side file = m.isEnd pipe side file) : p.Provided w₀ k m' := by
  refine ⟨h.input, fun i hi hlast ↦ ?_⟩
  obtain ⟨hwriter, hreads, hwrites⟩ := h.pipe i hi hlast
  refine ⟨Nat.lt_of_lt_of_le hwriter hopened, ?_, ?_⟩
  · rwa [hisEnd _ _ _ (Nat.lt_of_succ_lt hwriter)]
  · rwa [hisEnd _ _ _ hwriter]

end Pipeline

namespace Wiring

variable {p : Pipeline} {w₀ w w' : World} {held : List (Descriptor × Holding)} {e : Endpoint}

/-- The file of an end has been opened, if there is one: the shell holds it, and it is
the newest file. -/
structure EndOpened (w₀ : World) (held : List (Descriptor × Holding)) (path : Option String)
    (w : World) (e : Endpoint) (new : List (Descriptor × Holding)) (w' : World) : Prop where
  leads : e.Leads (path.map fun _ ↦ w.machine.opened.size) new
  borrows : w₀.Borrows (new ++ held) w'
  grows : w.machine.Grows w'.machine
  opened : w'.machine.opened.size = w.machine.opened.size + path.toList.length
  pipes : w'.machine.pipes.size = w.machine.pipes.size

theorem exists_endOpened {path : Option String} {purpose : Purpose}
    (hborrows : w₀.Borrows held w) (h : openEnd path purpose w = .ok (e, w')) :
    ∃ new, EndOpened w₀ held path w e new w' := by
  cases path with
  | none =>
      cases h
      exact ⟨[], .inherited, hborrows, .refl _, rfl, rfl⟩
  | some path =>
      obtain ⟨fd, hopen, rfl⟩ := openEnd_eq_ok h
      obtain ⟨file, hmachine, hborrows'⟩ := hborrows.openFile hopen
      have hopens := Machine.opens_mode hmachine
      obtain rfl := hopens.file_eq
      exact ⟨_, .descriptor fd _, hborrows', hopens.grows, hopens.opened, hopens.pipes⟩

/-- The wiring when it is the turn of a stage. -/
def before (p : Pipeline) (k : Nat) (carried : Option Descriptor) : Wiring :=
  ⟨p.input, p.output, p.stages.size, k, carried⟩

theorem index_before_ne {k : Nat} {carried : Option Descriptor} (hk : k < p.stages.size) :
    (before p k carried).index ≠ (before p k carried).count :=
  Nat.ne_of_lt hk

/-- Before a stage: so many are started, what they need is open, and the shell holds at
most the read end carried over. -/
structure Midway (p : Pipeline) (w₀ : World) (k : Nat) (carried : Option Descriptor)
    (held : List (Descriptor × Holding)) (w : World) : Prop where
  begun : p.Begun w₀ k w.machine
  provided : p.Provided w₀ k w.machine
  borrows : w₀.Borrows held w
  start : k = 0 → w = w₀
  holds : (carried = none ∧ held = [] ∧ (k = 0 ∨ k = p.stages.size)) ∨
    ∃ fd i, carried = some fd ∧ k = i + 1 ∧ k < p.stages.size ∧
      held = [(fd, ⟨p.pipeReader w₀.machine.opened.size i, true⟩)]
  opened : 0 < k → k < p.stages.size →
    w.machine.opened.size = p.pipeReader w₀.machine.opened.size k
  pipes : k < p.stages.size → w.machine.pipes.size = w₀.machine.pipes.size + k
  last : ∀ i, k = i + 1 → k = p.stages.size → w.machine.opened.size =
    p.pipeReader w₀.machine.opened.size i + p.output.toList.length

theorem Midway.zero (p : Pipeline) (w : World) : Midway p w 0 none [] w :=
  ⟨.zero p w, .zero p w, .refl w, fun _ ↦ rfl, .inl ⟨rfl, rfl, .inl rfl⟩, nofun, fun _ ↦ rfl,
    nofun⟩

variable {k : Nat} {carried : Option Descriptor}

/-! ## Preparing a stage -/

/-- The input of a stage is prepared: it is the file that the stage is to get, and the
next number for a file is that of the stage's own pipe. -/
structure InputReady (p : Pipeline) (w₀ : World) (k : Nat) (e : Endpoint)
    (held : List (Descriptor × Holding)) (w : World) : Prop where
  leads : e.Leads (p.stageInput w₀.machine.opened.size k) held
  borrows : w₀.Borrows held w
  begun : p.Begun w₀ k w.machine
  provided : p.Provided w₀ k w.machine
  path : k = 0 → ∀ path, p.input = some path → ∃ m',
    w₀.machine.openFile w₀.table 0 w₀.cwd path .read = .ok (w₀.machine.opened.size, m')
  opened : w.machine.opened.size = p.pipeReader w₀.machine.opened.size k
  pipes : w.machine.pipes.size = w₀.machine.pipes.size + k

theorem exists_inputReady (h : Midway p w₀ k carried held w) (hk : k < p.stages.size)
    (hinput : (before p k carried).nextInput w = .ok (e, w')) :
    ∃ inputHeld, InputReady p w₀ k e inputHeld w' := by
  rcases h.holds with ⟨rfl, rfl, hk' | hk'⟩ | ⟨fd, i, rfl, rfl, -, rfl⟩
  · -- The first stage takes the input file, if there is one.
    subst hk'
    obtain rfl := h.start rfl
    have hinput : openEnd p.input .reading w = .ok (e, w') := hinput
    obtain ⟨new, hleads, hborrows, hgrows, hopened, hpipes⟩ :=
      exists_endOpened h.borrows hinput
    rw [List.append_nil] at hborrows
    refine ⟨new, hleads, hborrows, h.begun.grows hgrows,
      h.provided.mono hgrows.opened hgrows.isEnd, fun _ path hpath ↦ ?_, hopened, hpipes⟩
    rw [hpath] at hinput
    obtain ⟨fd, hopen, -⟩ := openEnd_eq_ok hinput
    obtain ⟨file, machine, hmachine, -, -⟩ := World.openFile_eq_ok hopen
    rw [← (Machine.opens_mode hmachine).file_eq]
    exact ⟨machine, hmachine⟩
  · exact absurd hk' (Nat.ne_of_lt hk)
  · cases hinput
    exact ⟨_, .descriptor fd _, h.borrows, h.begun, h.provided, nofun,
      h.opened (Nat.succ_pos i) hk, h.pipes hk⟩

/-- What a stage gets has been prepared. -/
structure StageReady (p : Pipeline) (w₀ : World) (k : Nat) (ends : StageEnds)
    (inputHeld outputHeld stray : List (Descriptor × Holding)) (w : World) : Prop where
  prepared : ends.Prepared w₀ (p.stageInput w₀.machine.opened.size k)
    (p.stageOutput w₀.machine.opened.size k) inputHeld outputHeld stray w
  begun : p.Begun w₀ k w.machine
  provided : p.Provided w₀ (k + 1) w.machine
  keeps : (ends.stray = none ∧ stray = [] ∧ k + 1 = p.stages.size) ∨
    ∃ fd, ends.stray = some fd ∧ k + 1 < p.stages.size ∧
      stray = [(fd, ⟨p.pipeReader w₀.machine.opened.size k, true⟩)]
  opened : k + 1 < p.stages.size →
    w.machine.opened.size = p.pipeReader w₀.machine.opened.size (k + 1)
  pipes : k + 1 < p.stages.size → w.machine.pipes.size = w₀.machine.pipes.size + (k + 1)
  last : k + 1 = p.stages.size → w.machine.opened.size =
    p.pipeReader w₀.machine.opened.size k + p.output.toList.length

/-- The last stage writes into the output file, if there is one. -/
theorem InputReady.stageReady_last {output : Endpoint} (h : InputReady p w₀ k e held w)
    (hlast : k + 1 = p.stages.size) (houtput : openEnd p.output .writing w = .ok (output, w')) :
    ∃ outputHeld, StageReady p w₀ k ⟨e, output, none⟩ held outputHeld [] w' := by
  obtain ⟨new, hleads, hborrows, hgrows, hopened, -⟩ := exists_endOpened h.borrows houtput
  have hnot : ¬ k + 1 < p.stages.size := Nat.not_lt.2 (Nat.le_of_eq hlast.symm)
  refine ⟨new, ⟨h.leads, ?_, rfl, by simpa using hborrows⟩, h.begun.grows hgrows, ?_,
    .inl ⟨rfl, rfl, hlast⟩, fun hmore ↦ absurd hmore hnot, fun hmore ↦ absurd hmore hnot,
    fun _ ↦ ?_⟩
  · rw [Pipeline.stageOutput, if_pos hlast, ← h.opened]
    exact hleads
  · exact (h.provided.mono hgrows.opened hgrows.isEnd).succ h.path
      fun hmore ↦ absurd hmore hnot
  · rw [hopened, h.opened]

/-- Every other stage writes into a new pipe, whose read end the shell keeps. -/
theorem InputReady.stageReady_pipe (h : InputReady p w₀ k e held w)
    (hmore : k + 1 < p.stages.size) :
    StageReady p w₀ k ⟨e, .descriptor w.makePipe.2.1, some w.makePipe.1⟩ held
      [(w.makePipe.2.1, ⟨w.machine.opened.size + 1, true⟩)]
      [(w.makePipe.1, ⟨w.machine.opened.size, true⟩)] w.makePipe.2.2 := by
  have hgrows := w.machine.grows_makePipe
  have hne : k + 1 ≠ p.stages.size := Nat.ne_of_lt hmore
  refine ⟨⟨h.leads, ?_, rfl, h.borrows.pipe⟩, h.begun.grows hgrows, ?_,
    .inr ⟨_, rfl, hmore, ?_⟩, fun _ ↦ ?_, fun _ ↦ ?_, fun hlast ↦ absurd hlast hne⟩
  · rw [Pipeline.stageOutput, if_neg hne, Pipeline.pipeWriter, ← h.opened]
    exact .descriptor _ _
  · refine (h.provided.mono hgrows.opened hgrows.isEnd).succ h.path fun _ ↦ ?_
    rw [Pipeline.pipeWriter, ← h.opened, ← h.pipes]
    refine ⟨?_, w.machine.isEnd_makePipe_reader, w.machine.isEnd_makePipe_writer⟩
    rw [Machine.size_opened_makePipe]
    exact Nat.lt_succ_self _
  · rw [h.opened]
  · rw [Pipeline.pipeReader_succ, ← h.opened]
    exact w.machine.size_opened_makePipe
  · rw [← Nat.add_assoc, ← h.pipes]
    exact w.machine.size_pipes_makePipe

variable {s : Wiring}

theorem Midway.next_some {ends : StageEnds} (h : Midway p w₀ k carried held w)
    (hk : k < p.stages.size) (hnext : (before p k carried).next w = (.ok (some ends), s, w')) :
    s = before p (k + 1) ends.stray ∧
      ∃ inputHeld outputHeld stray, StageReady p w₀ k ends inputHeld outputHeld stray w' := by
  obtain ⟨-, hsupplies⟩ := supplies_of_next hnext
  cases hsupplies with
  | last hinput hlast houtput =>
      obtain ⟨inputHeld, hready⟩ := exists_inputReady h hk hinput
      obtain ⟨outputHeld, hstage⟩ := hready.stageReady_last hlast houtput
      exact ⟨rfl, inputHeld, outputHeld, [], hstage⟩
  | piped hinput hmore _ =>
      obtain ⟨inputHeld, hready⟩ := exists_inputReady h hk hinput
      exact ⟨rfl, _, _, _, hready.stageReady_pipe (Nat.lt_of_le_of_ne hk hmore)⟩

/-- An input that has been prepared for nothing is given up again. -/
theorem InputReady.released (h : InputReady p w₀ k e held w) :
    w₀.Borrows [] (e.release w) ∧ p.Begun w₀ k (e.release w).machine ∧
      p.Provided w₀ k (e.release w).machine := by
  have hreleased : w₀.Borrows ([] ++ []) (e.release w) :=
    World.Borrows.release h.leads (by simpa using h.borrows)
  rw [Endpoint.machine_release]
  exact ⟨hreleased, h.begun, h.provided⟩

/-- A stage that cannot be prepared leaves nothing behind. -/
theorem Midway.next_error {cause : ExecError} (h : Midway p w₀ k carried held w)
    (hk : k < p.stages.size) (hnext : (before p k carried).next w = (.error cause, s, w')) :
    w₀.Borrows [] (s.release w') ∧ p.Begun w₀ k w'.machine ∧ p.Provided w₀ k w'.machine := by
  obtain ⟨-, hrefuses⟩ := refuses_of_next hnext
  cases hrefuses with
  | input hinput =>
      rcases h.holds with ⟨rfl, rfl, -⟩ | ⟨fd, i, rfl, -⟩
      · exact ⟨h.borrows, h.begun, h.provided⟩
      · cases hinput
  | output hinput _ _ | pipe hinput _ _ =>
      obtain ⟨inputHeld, hready⟩ := exists_inputReady h hk hinput
      exact hready.released

theorem next_ne_none (hk : k < p.stages.size) :
    (before p k carried).next w ≠ (.ok none, s, w') := by
  intro hnext
  obtain ⟨hindex, -⟩ := index_of_next_none hnext
  exact index_before_ne hk hindex

/-! ## Starting a stage -/

/-- When a stage has been started and the shell has given up what the stage got, it is
the turn of the next one. -/
theorem StageReady.midway {ends : StageEnds} {q : Process}
    {inputHeld outputHeld stray : List (Descriptor × Holding)}
    (h : StageReady p w₀ k ends inputHeld outputHeld stray w)
    (hzero : (w₀.table.get? 0).isSome) (hone : (w₀.table.get? 1).isSome)
    (hfirst : ∀ entry ∈ w₀.table.holdings, entry.2.file < w₀.machine.opened.size)
    (hstarts : w.Starts (Table.rewire ends) q w') :
    Midway p w₀ (k + 1) ends.stray stray (ends.release w') := by
  have hholds := h.prepared.stageHolds hzero hone hfirst hstarts
  have hborrows := h.prepared.release (h.prepared.borrows.start hstarts)
  refine ⟨?_, ?_, hborrows, nofun, ?_, fun _ hmore ↦ ?_, fun hmore ↦ ?_, fun i hi hlast ↦ ?_⟩
  · rw [StageEnds.machine_release]
    exact h.begun.push hholds hstarts.processes
  · rw [StageEnds.machine_release]
    exact h.provided.mono (Nat.le_of_eq hstarts.opened.symm) fun pipe side file _ ↦
      hstarts.isEnd pipe side file
  · rcases h.keeps with ⟨hends, hstray, hlast⟩ | ⟨fd, hends, hmore, hstray⟩
    · exact .inl ⟨hends, hstray, .inr hlast⟩
    · exact .inr ⟨fd, k, hends, rfl, hmore, hstray⟩
  · rw [StageEnds.machine_release, hstarts.opened, h.opened hmore]
  · rw [StageEnds.machine_release, hstarts.pipes, h.pipes hmore]
  · obtain rfl : k = i := Nat.succ.inj hi
    rw [StageEnds.machine_release, hstarts.opened, h.last hlast]

/-- When a stage that has been prepared cannot be started, all that was prepared is given up
again, and so is the read end that was to be carried over. -/
theorem StageReady.released {ends : StageEnds}
    {inputHeld outputHeld stray : List (Descriptor × Holding)}
    (h : StageReady p w₀ k ends inputHeld outputHeld stray w) :
    w₀.Borrows [] ((before p (k + 1) ends.stray).release (ends.release w)) := by
  have hborrows := h.prepared.release h.prepared.borrows
  rcases h.keeps with ⟨hends, rfl, -⟩ | ⟨fd, hends, -, rfl⟩
  · rw [hends]
    exact hborrows
  · rw [hends]
    have hclosed := hborrows.close (List.mem_singleton_self fd)
    rwa [List.filter_cons_of_neg (by simp), List.filter_nil] at hclosed

end Wiring

namespace Pipeline

variable {p : Pipeline} {w₀ w : World} {k : Nat} {carried : Option Descriptor}
  {held : List (Descriptor × Holding)}

/-- No more stages are started, and the shell holds what it held before the first. -/
structure Settled (p : Pipeline) (w₀ : World) (k : Nat) (w : World) : Prop where
  borrows : w₀.Borrows [] w
  begun : p.Begun w₀ k w.machine
  provided : p.Provided w₀ k w.machine

theorem settled_startStages_nil (h : Wiring.Midway p w₀ k carried held w)
    (hk : k = p.stages.size) : p.Settled w₀ k ((Wiring.before p k carried).release w) ∧
      (Wiring.before p k carried).release w = w := by
  rcases h.holds with ⟨rfl, rfl, -⟩ | ⟨fd, i, -, -, hmore, -⟩
  · exact ⟨⟨h.borrows, h.begun, h.provided⟩, rfl⟩
  · exact absurd hk (Nat.ne_of_lt hmore)

/-- From the turn of any stage on, all that is opened is given up again, and the stages
started hold their own files only. -/
theorem settled_startStages (hzero : (w₀.table.get? 0).isSome)
    (hone : (w₀.table.get? 1).isSome)
    (hfirst : ∀ entry ∈ w₀.table.holdings, entry.2.file < w₀.machine.opened.size)
    {stages : List Stage} (h : Wiring.Midway p w₀ k carried held w)
    (hlength : k + stages.length = p.stages.size) :
    let started := startStages (.before p k carried) w stages
    p.Settled w₀ (k + started.pids.length) started.world ∧
      started.pids =
        List.range' (w₀.machine.processes.size + k) started.pids.length ∧
      (started.failure = none → ∀ i, i + 1 = p.stages.size →
        started.world.machine.opened.size =
          p.pipeReader w₀.machine.opened.size i + p.output.toList.length) := by
  -- The numbers of the files are fixed by `w₀`, so the induction keeps it and moves `k`.
  induction stages generalizing k carried held w with
  | nil =>
      have hk : k = p.stages.size := hlength
      obtain ⟨hsettled, hrelease⟩ := settled_startStages_nil h hk
      refine ⟨hsettled, rfl, fun _ i hi ↦ ?_⟩
      rw [startStages, hrelease]
      exact h.last i (hk.trans hi.symm) hk
  | cons stage rest ih =>
      have hlength' : k + 1 + rest.length = p.stages.size := by
        rw [← hlength, List.length_cons]
        omega
      have hk : k < p.stages.size := by omega
      unfold startStages
      split
      next cause s w' hnext =>
        obtain ⟨hborrows, hbegun, hprovided⟩ := h.next_error hk hnext
        rw [← s.machine_release] at hbegun hprovided
        exact ⟨⟨hborrows, hbegun, hprovided⟩, rfl, nofun⟩
      next s w' hnext => exact absurd hnext (Wiring.next_ne_none hk)
      next ends s w' hnext =>
        obtain ⟨rfl, inputHeld, outputHeld, stray, hready⟩ := h.next_some hk hnext
        split
        next e hstart =>
          refine ⟨⟨hready.released, ?_, ?_⟩, rfl, nofun⟩
          · rw [Wiring.machine_release, StageEnds.machine_release]
            exact hready.begun
          · rw [Wiring.machine_release, StageEnds.machine_release]
            exact hready.provided.of_succ
        next pid w'' hstart =>
          obtain ⟨rfl, hstarts⟩ := World.starts_of_start hstart
          have hmidway := hready.midway hzero hone hfirst hstarts
          obtain ⟨hsettled, hpids, hopened⟩ := ih hmidway hlength'
          refine ⟨?_, ?_, hopened⟩
          · dsimp only
            rw [List.length_cons, Nat.add_comm _ 1, ← Nat.add_assoc]
            exact hsettled
          · dsimp only
            rw [List.length_cons, List.range'_succ, hready.begun.size, Nat.add_assoc]
            exact congrArg _ hpids

end Pipeline

end PipeShell

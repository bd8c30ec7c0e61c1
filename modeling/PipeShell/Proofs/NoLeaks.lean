import PipeShell.Proofs.StageByStage
import PipeShell.Proofs.Starting
import PipeShell.System.Scheduler
import PipeShell.System.Scratch

/-!
# No descriptor leaks

A run of a pipeline opens files for its stages, and all of them are gone from the shell
before it waits for the first stage.  No process keeps one that is not its own: an end
of a pipe is held by the stage that writes into the pipe or by the one that reads from
it, each under the number of the standard stream that it is, and by nobody else.
-/

namespace PipeShell

namespace World

/-- Every descriptor stands for a file that has been opened. -/
structure HoldsOpened (w : World) : Prop where
  shell : ∀ entry ∈ w.table.holdings, entry.2.file < w.machine.opened.size
  processes : ∀ q ∈ w.machine.processes, ∀ entry ∈ q.table.holdings,
    entry.2.file < w.machine.opened.size

/-- So it is in a world in which nothing has happened yet. -/
theorem holdsOpened_scratch (programs : List (String × (List String → Environment → Program)))
    (environment : Environment) (entries : List Entry) (input : Bytes) :
    (Scratch.new programs environment entries input).2.HoldsOpened := by
  have hstandard : ∀ entry ∈ [(0, Holding.mk 0 false), (1, ⟨1, false⟩), (2, ⟨2, false⟩)],
      entry.2.file < 3 := by decide
  exact ⟨hstandard, fun q hq ↦ absurd hq (Array.not_mem_empty q)⟩

/-- Someone has an open file under a number: the shell, or else a process. -/
def HoldsAt (w : World) (holder : Option Pid) (fd : Descriptor) (file : FileId) : Prop :=
  match holder with
  | none => ∃ h : Holding, (fd, h) ∈ w.table.holdings ∧ h.file = file
  | some pid => ∃ q h, w.machine.processes[pid]? = some q ∧ (fd, h) ∈ q.table.holdings ∧
      h.file = file

end World

namespace Pipeline

variable {p : Pipeline} {w₀ w : World} {k : Nat}

/-- What is held of the files of a run is held by a stage that got it. -/
theorem Settled.eq_of_holdsAt (h : p.Settled w₀ k w) (hw₀ : w₀.HoldsOpened)
    {holder : Option Pid} {fd : Descriptor} {file : FileId} (hholds : w.HoldsAt holder fd file)
    (hnew : w₀.machine.opened.size ≤ file) :
    ∃ i, i < k ∧ holder = some (w₀.machine.processes.size + i) ∧
      ((fd = 0 ∧ p.stageInput w₀.machine.opened.size i = some file) ∨
        (fd = 1 ∧ p.stageOutput w₀.machine.opened.size i = some file)) := by
  cases holder with
  | none =>
      obtain ⟨x, hmem, rfl⟩ := hholds
      rw [h.borrows.lends.eq] at hmem
      exact absurd (hw₀.shell _ hmem) (Nat.not_lt.2 hnew)
  | some pid =>
      obtain ⟨q, x, hq, hmem, rfl⟩ := hholds
      have hpid : pid < w₀.machine.processes.size + k := by
        rw [← h.begun.size]
        exact (Array.getElem?_eq_some_iff.1 hq).1
      by_cases hold : pid < w₀.machine.processes.size
      · rw [h.begun.before pid hold] at hq
        exact absurd (hw₀.processes q (Array.mem_of_getElem? hq) _ hmem) (Nat.not_lt.2 hnew)
      · obtain ⟨i, rfl⟩ := Nat.exists_eq_add_of_le (Nat.not_lt.1 hold)
        have hi : i < k := Nat.lt_of_add_lt_add_left hpid
        obtain ⟨q', hq', hstage⟩ := h.begun.stage i hi
        obtain rfl : q' = q := Option.some.inj (hq'.symm.trans hq)
        refine ⟨i, hi, rfl, ?_⟩
        rcases hstage.mem _ hmem with hfile | hfile | hfile
        · exact absurd hfile (Nat.not_lt.2 hnew)
        · exact .inl hfile
        · exact .inr hfile

/-! ## Which stage a file is for -/

variable {first i j : Nat}

theorem stageInput_eq_some {file : Nat} (h : p.stageInput first j = some file) :
    (j = 0 ∧ p.input.isSome ∧ file = first) ∨
      ∃ i, j = i + 1 ∧ file = p.pipeReader first i := by
  cases j with
  | zero =>
      obtain ⟨path, hpath, rfl⟩ := Option.map_eq_some_iff.1 h
      exact .inl ⟨rfl, by rw [hpath]; rfl, rfl⟩
  | succ i => exact .inr ⟨i, rfl, (Option.some.inj h).symm⟩

theorem stageOutput_eq_some {file : Nat} (h : p.stageOutput first j = some file) :
    (j + 1 = p.stages.size ∧ p.output.isSome ∧ file = p.pipeReader first j) ∨
      (j + 1 ≠ p.stages.size ∧ file = p.pipeWriter first j) := by
  unfold stageOutput at h
  split at h
  next hlast =>
    obtain ⟨path, hpath, rfl⟩ := Option.map_eq_some_iff.1 h
    exact .inl ⟨hlast, by rw [hpath]; rfl, rfl⟩
  next hlast => exact .inr ⟨hlast, (Option.some.inj h).symm⟩

theorem length_input (h : p.input.isSome) : p.input.toList.length = 1 := by
  obtain ⟨path, hpath⟩ := Option.isSome_iff_exists.1 h
  rw [hpath]
  rfl

theorem le_pipeReader (i : Nat) : first ≤ p.pipeReader first i := by
  simp only [pipeReader]
  omega

theorem stageInput_ne_pipeWriter : p.stageInput first j ≠ some (p.pipeWriter first i) := by
  intro h
  rcases stageInput_eq_some h with ⟨-, -, hfile⟩ | ⟨j', -, hfile⟩ <;>
    simp only [pipeWriter, pipeReader] at hfile <;> omega

theorem eq_of_stageOutput_eq_pipeWriter
    (h : p.stageOutput first j = some (p.pipeWriter first i)) : j = i := by
  rcases stageOutput_eq_some h with ⟨-, -, hfile⟩ | ⟨-, hfile⟩ <;>
    simp only [pipeWriter, pipeReader] at hfile <;> omega

theorem eq_of_stageInput_eq_pipeReader
    (h : p.stageInput first j = some (p.pipeReader first i)) : j = i + 1 := by
  rcases stageInput_eq_some h with ⟨-, hinput, hfile⟩ | ⟨j', rfl, hfile⟩
  · have hlength := length_input hinput
    simp only [pipeReader] at hfile
    omega
  · simp only [pipeReader] at hfile
    omega

theorem eq_of_stageOutput_eq_pipeReader
    (h : p.stageOutput first j = some (p.pipeReader first i)) :
    j = i ∧ j + 1 = p.stages.size := by
  rcases stageOutput_eq_some h with ⟨hlast, -, hfile⟩ | ⟨-, hfile⟩ <;>
    simp only [pipeWriter, pipeReader] at hfile
  · exact ⟨by omega, hlast⟩
  · omega

theorem eq_of_stageInput_eq_first (hinput : p.input.isSome)
    (h : p.stageInput first j = some first) : j = 0 := by
  have hlength := length_input hinput
  rcases stageInput_eq_some h with ⟨hj, -⟩ | ⟨j', -, hfile⟩
  · exact hj
  · simp only [pipeReader] at hfile
    omega

theorem stageOutput_ne_first (hinput : p.input.isSome) : p.stageOutput first j ≠ some first := by
  intro h
  have hlength := length_input hinput
  rcases stageOutput_eq_some h with ⟨-, -, hfile⟩ | ⟨-, hfile⟩ <;>
    simp only [pipeWriter, pipeReader] at hfile <;> omega

/-! ## A whole run -/

theorem settled_start (hzero : (w.table.get? 0).isSome) (hone : (w.table.get? 1).isSome)
    (hw : w.HoldsOpened) (p : Pipeline) :
    p.Settled w (p.start w).pids.length (p.start w).world ∧
      (p.start w).pids = List.range' w.machine.processes.size (p.start w).pids.length ∧
      ((p.start w).failure = none → ∀ i, i + 1 = p.stages.size →
        (p.start w).world.machine.opened.size =
          p.pipeReader w.machine.opened.size i + p.output.toList.length) := by
  unfold start
  split
  next => exact ⟨⟨.refl w, .zero p w, .zero p w⟩, rfl, nofun⟩
  next =>
    have hlength : 0 + p.stages.toList.length = p.stages.size := by
      rw [Nat.zero_add, Growable.length_toList]
    obtain ⟨hsettled, hpids, hopened⟩ :=
      settled_startStages hzero hone hw.shell (Wiring.Midway.zero p w) hlength
    rw [Nat.zero_add] at hsettled
    exact ⟨hsettled, hpids, hopened⟩

theorem getElem?_pids (hpids : (p.start w).pids =
    List.range' w.machine.processes.size (p.start w).pids.length) {i : Nat}
    (hi : i < (p.start w).pids.length) :
    (p.start w).pids[i]? = some (w.machine.processes.size + i) := by
  rw [hpids, List.getElem?_range' hi, Nat.one_mul]

/-- An open file is held by nobody but the process of one stage, under one number. -/
def HeldOnly (p : Pipeline) (w : World) (file : FileId) (stage : Nat) (slot : Descriptor) : Prop :=
  ∀ holder fd, (p.start w).world.HoldsAt holder fd file →
    fd = slot ∧ ∃ pid, holder = some pid ∧ (p.start w).pids[stage]? = some pid

/-- A new file that only one stage gets, and under one number, is held there only. -/
theorem heldOnly_of_stage (hzero : (w.table.get? 0).isSome) (hone : (w.table.get? 1).isSome)
    (hw : w.HoldsOpened) {file : FileId} {stage : Nat} {slot : Descriptor}
    (hnew : w.machine.opened.size ≤ file)
    (hinput : ∀ j < p.stages.size, p.stageInput w.machine.opened.size j = some file →
      j = stage ∧ slot = 0)
    (houtput : ∀ j < p.stages.size, p.stageOutput w.machine.opened.size j = some file →
      j = stage ∧ slot = 1) : p.HeldOnly w file stage slot := by
  obtain ⟨hsettled, hpids, -⟩ := settled_start hzero hone hw p
  have hlength := p.length_start_le w
  rw [Growable.length_toList] at hlength
  intro holder fd hholds
  obtain ⟨j, hj, rfl, ⟨rfl, hfile⟩ | ⟨rfl, hfile⟩⟩ := hsettled.eq_of_holdsAt hw hholds hnew
  · obtain ⟨rfl, rfl⟩ := hinput j (Nat.lt_of_lt_of_le hj hlength) hfile
    exact ⟨rfl, _, rfl, getElem?_pids hpids hj⟩
  · obtain ⟨rfl, rfl⟩ := houtput j (Nat.lt_of_lt_of_le hj hlength) hfile
    exact ⟨rfl, _, rfl, getElem?_pids hpids hj⟩

/-- What it is for a run of a pipeline not to leak descriptors.  The files that it opens
have the numbers from that of the first new one on. -/
structure NoLeak (sched : Scheduler) (p : Pipeline) (d : Diagnostics) (w : World) : Prop where
  /-- When the first process is waited for, the shell holds what it held at the start. -/
  restored : (p.start w).world.table = w.table
  /-- So it does when an error has been told before. -/
  restoredTelling : ∀ text, (d.write (p.start w).world text).2.2.table = w.table
  /-- Until then what has been opened has been closed, and nothing else has. -/
  requests : Event.Replays w.events [] (p.start w).world.events
  /-- From then on only waiting is requested. -/
  waiting : (p.execute sched d w).2.2.events =
    (p.start w).world.events ++ ((p.start w).pids.map Event.awaited).toArray
  restoredAfter : (p.execute sched d w).2.2.table = w.table
  writer : ∀ i, i + 1 < p.stages.size →
    p.HeldOnly w (p.pipeWriter w.machine.opened.size i) i 1
  reader : ∀ i, i + 1 < p.stages.size →
    p.HeldOnly w (p.pipeReader w.machine.opened.size i) (i + 1) 0
  input : p.input.isSome → p.HeldOnly w w.machine.opened.size 0 0
  output : p.output.isSome → ∀ i, i + 1 = p.stages.size →
    p.HeldOnly w (p.pipeReader w.machine.opened.size i) i 1
  /-- A stage that has become its program does hold its own. -/
  programs : ∀ i pid q, (p.start w).pids[i]? = some pid →
    (p.start w).world.machine.processes[pid]? = some q → q.ended = none →
      (∀ file, p.stageInput w.machine.opened.size i = some file →
        q.table.get? 0 = some ⟨file, false⟩) ∧
      ∀ file, p.stageOutput w.machine.opened.size i = some file →
        q.table.get? 1 = some ⟨file, false⟩
  /-- The numbers are those of the files that the run has opened. -/
  provided : p.Provided w (p.start w).pids.length (p.start w).world.machine
  last : (p.start w).failure = none → ∀ i, i + 1 = p.stages.size →
    (p.start w).world.machine.opened.size =
      p.pipeReader w.machine.opened.size i + p.output.toList.length

/-- When the standard streams of the shell are open, no run of a pipeline leaks a
descriptor, whether or not all of its stages can be started. -/
theorem no_descriptor_leaks (sched : Scheduler) (p : Pipeline) (d : Diagnostics) (w : World)
    (hzero : (w.table.get? 0).isSome) (hone : (w.table.get? 1).isSome) (hw : w.HoldsOpened) :
    p.NoLeak sched d w := by
  obtain ⟨hsettled, hpids, hlast⟩ := settled_start hzero hone hw p
  have hwaited := waited_execute_start sched p d w
  have hrestored : (p.start w).world.table = w.table := hsettled.borrows.lends.eq
  refine
    { restored := hrestored
      restoredTelling := fun text ↦ ((d.own_write _ text).1).trans hrestored
      requests := hsettled.borrows.replays
      waiting := hwaited.events
      restoredAfter := hwaited.table.trans hrestored
      provided := hsettled.provided
      last := hlast
      writer := fun i hi ↦ ?_
      reader := fun i hi ↦ ?_
      input := fun hinput ↦ ?_
      output := fun _ i hi ↦ ?_
      programs := fun i pid q hi hq hended ↦ ?_ }
  · refine heldOnly_of_stage hzero hone hw (Nat.le_succ_of_le (le_pipeReader i)) ?_ ?_
    · intro j _ hfile
      exact absurd hfile stageInput_ne_pipeWriter
    · intro j _ hfile
      exact ⟨eq_of_stageOutput_eq_pipeWriter hfile, rfl⟩
  · refine heldOnly_of_stage hzero hone hw (le_pipeReader i) ?_ ?_
    · intro j _ hfile
      exact ⟨eq_of_stageInput_eq_pipeReader hfile, rfl⟩
    · intro j _ hfile
      obtain ⟨rfl, hlast⟩ := eq_of_stageOutput_eq_pipeReader hfile
      exact absurd hlast (Nat.ne_of_lt hi)
  · refine heldOnly_of_stage hzero hone hw (Nat.le_refl _) ?_ ?_
    · intro j _ hfile
      exact ⟨eq_of_stageInput_eq_first hinput hfile, rfl⟩
    · intro j _ hfile
      exact absurd hfile (stageOutput_ne_first hinput)
  · -- The number of the output file is the one that a further pipe would have had.
    refine heldOnly_of_stage hzero hone hw (le_pipeReader i) ?_ ?_
    · intro j hj hfile
      have hnext := eq_of_stageInput_eq_pipeReader hfile
      omega
    · intro j _ hfile
      exact ⟨(eq_of_stageOutput_eq_pipeReader hfile).1, rfl⟩
  · have hlt : i < (p.start w).pids.length := (List.getElem?_eq_some_iff.1 hi).1
    obtain rfl : w.machine.processes.size + i = pid :=
      Option.some.inj ((getElem?_pids hpids hlt).symm.trans hi)
    obtain ⟨q', hq', hstage⟩ := hsettled.begun.stage i hlt
    obtain rfl : q' = q := Option.some.inj (hq'.symm.trans hq)
    exact ⟨hstage.input hended, hstage.output hended⟩

/-- Three stages, the last of which writes into a file. -/
theorem no_descriptor_leaks_three_stages :
    let w := (Scratch.new [("cat", fun _ _ ↦ .exit 0)] [("PATH", "/usr/bin")] [] []).2
    (w.table.get? 0).isSome ∧ (w.table.get? 1).isSome ∧ w.HoldsOpened ∧
      NoLeak (.fair 8 64)
        ⟨.ofList [.ofProgram "cat", .ofProgram "cat", .ofProgram "cat"], none, some "out"⟩
        .unlimited w := by
  have hopened := World.holdsOpened_scratch [("cat", fun _ _ ↦ .exit 0)]
    [("PATH", "/usr/bin")] [] []
  exact ⟨rfl, rfl, hopened, no_descriptor_leaks _ _ _ _ rfl rfl hopened⟩

end Pipeline

end PipeShell

import PipeShell.Proofs.StageByStage

/-!
# The processes of the stages

When the arguments can be passed on, the files of the redirections can be opened and the
system has pipes and processes enough, every stage of a pipeline is started: one process
for each, in order and behind those that were there.  Each goes on as the program that its
stage names, or complains that it cannot, whatever has become of the other stages.
-/

namespace PipeShell

/-! ## One process -/

namespace World

/-- What a process that is started goes on as, with which table, or why it does not. -/
def prospect (w : World) (rewire : Table → Except Errno Table) (args : List String) :
    Except StartError (Table × Program) :=
  match rewire w.table with
  | .error e => .error (.streams e)
  | .ok table =>
      match w.machine.load w.cwd w.environment args with
      | .error e => .error (.program e)
      | .ok program => .ok (table.afterExec, program)

variable {w : World} {rewire : Table → Except Errno Table} {args : List String}

/-- Either the streams cannot be set up, or there is no program to go on as. -/
theorem prospect_eq_error {e : StartError} (h : w.prospect rewire args = .error e) :
    (∃ cause, e = .streams cause ∧ rewire w.table = .error cause) ∨
      ∃ cause table, e = .program cause ∧ rewire w.table = .ok table ∧
        w.machine.load w.cwd w.environment args = .error cause := by
  unfold prospect at h
  split at h
  next cause hrewire =>
    cases h
    exact .inl ⟨cause, rfl, hrewire⟩
  next table hrewire =>
    split at h
    next cause hload =>
      cases h
      exact .inr ⟨cause, table, rfl, hrewire, hload⟩
    next => cases h

theorem launch_of_prospect {table : Table} {program : Program}
    (h : w.prospect rewire args = .ok (table, program)) (complaint : StartError → List String) :
    w.launch rewire args complaint = (.new table w.cwd program, w.machine) := by
  unfold prospect at h
  split at h
  next => cases h
  next rewired hrewire =>
    split at h
    next => cases h
    next program hload =>
      cases h
      simp [launch, hrewire, hload]

theorem start_of_prospect {table : Table} {program : Program}
    {complaint : StartError → List String} (hshortage : w.shortage = .none)
    (h : w.prospect rewire args = .ok (table, program)) :
    w.start rewire args complaint = .ok (w.machine.processes.size,
      { w with
        machine := (w.machine.addProcess (.new table w.cwd program)).2
        children := w.children ++ [w.machine.processes.size]
        events := w.events.push (.started w.machine.processes.size) }) := by
  rw [start, hshortage, launch_of_prospect h]
  rfl

/-- If the system has a process to give, one is started. -/
theorem exists_start (w : World) (hprocess : w.shortage.process w.events.size = none)
    (rewire : Table → Except Errno Table) (args : List String)
    (complaint : StartError → List String) :
    ∃ pid w', w.start rewire args complaint = .ok (pid, w') := by
  unfold start
  rw [hprocess]
  exact ⟨_, _, rfl⟩

end World

/-! ## Preparing a stage -/

/-- A stage that is still to come is prepared, unless a file cannot be opened or the system
has no pipe. -/
theorem Wiring.next_cases {s : Wiring} (h : s.index < s.count) (w : World) :
    (∃ path purpose cause s' w', s.next w = (.error (.openFile path purpose cause), s', w')) ∨
      (∃ e s' w', s.next w = (.error (.pipe e), s', w')) ∨
      ∃ ends s' w', s.next w = (.ok (some ends), s', w') ∧ s'.index = s.index + 1 ∧
        s'.count = s.count := by
  rcases s.next_answers w with ⟨hindex, -⟩ | ⟨-, e, s', w', hnext, hrefuses⟩ |
    ⟨-, ends, s', w', hnext, hsupplies⟩
  · exact absurd hindex (Nat.ne_of_lt h)
  · cases hrefuses with
    | input hinput =>
        obtain ⟨path, purpose, cause, rfl⟩ := nextInput_eq_error hinput
        exact .inl ⟨path, purpose, cause, _, _, hnext⟩
    | output _ _ houtput =>
        obtain ⟨path, purpose, cause, rfl⟩ := openEnd_eq_error houtput
        exact .inl ⟨path, purpose, cause, _, _, hnext⟩
    | pipe _ _ _ => exact .inr (.inl ⟨_, _, _, hnext⟩)
  · refine .inr (.inr ⟨ends, s', w', hnext, ?_⟩)
    cases hsupplies <;> exact ⟨rfl, rfl⟩

theorem World.unwaited_start {w w' : World} {rewire : Table → Except Errno Table}
    {args : List String} {complaint : StartError → List String} {pid : Pid}
    (h : w.start rewire args complaint = .ok (pid, w')) : w.Unwaited w' :=
  .of_push (starts_of_start h).2.events nofun

namespace Pipeline

/-- Starting stages waits for none of them. -/
theorem unwaited_startStages (s : Wiring) (w : World) (stages : List Stage) :
    w.Unwaited (startStages s w stages).world := by
  fun_induction startStages s w stages with
  | case1 s w => exact (s.prepares_release w).unwaited
  | case2 s w stage rest e s' w' hnext =>
      have hprepares := s.prepares_next w
      rw [hnext] at hprepares
      exact (hprepares.trans (s'.prepares_release w')).unwaited
  | case3 s w stage rest s' w' hnext =>
      have hprepares := s.prepares_next w
      rw [hnext] at hprepares
      exact (hprepares.trans (s'.prepares_release w')).unwaited
  | case4 s w stage rest ends s' w' hnext e hstart =>
      have hprepares := s.prepares_next w
      rw [hnext] at hprepares
      exact ((hprepares.trans (ends.prepares_release w')).trans (s'.prepares_release _)).unwaited
  | case5 s w stage rest ends s' w' hnext pid w'' hstart started ih =>
      have hprepares := s.prepares_next w
      rw [hnext] at hprepares
      have hrelease := (ends.prepares_release w'').unwaited
      exact ((hprepares.unwaited.trans (World.unwaited_start hstart)).trans hrelease).trans ih

theorem unwaited_start (p : Pipeline) (w : World) : w.Unwaited (p.start w).world := by
  unfold start
  split
  · exact .of_events rfl
  · exact unwaited_startStages _ w _

end Pipeline

/-! ## All stages -/

/-- A stage when it is started: the descriptors prepared for it, and the world. -/
structure Turn where
  ends : StageEnds
  world : World

/-- What the process of a stage goes on as. -/
def Turn.prospect (t : Turn) (stage : Stage) : Except StartError (Table × Program) :=
  t.world.prospect (Table.rewire t.ends) stage.args

/-- The process of a stage. -/
def Turn.process (t : Turn) (stage : Stage) : Process :=
  (t.world.launch (Table.rewire t.ends) stage.args (Pipeline.complaint stage.program)).1

namespace Pipeline

/-- The turns of stages, as long as the wiring has descriptors for them and the system has
processes. -/
def turnsOf (s : Wiring) (w : World) : List Stage → List Turn
  | [] => []
  | stage :: rest =>
      match s.next w with
      | (.ok (some ends), s, w) =>
          match w.start (Table.rewire ends) stage.args (complaint stage.program) with
          | .ok (_, w') => ⟨ends, w⟩ :: turnsOf s (ends.release w') rest
          | .error _ => []
      | _ => []

/-- The turns of the stages of a pipeline. -/
def turns (p : Pipeline) (w : World) : List Turn :=
  turnsOf (.ofPipeline p) w p.stages.toList

section Cons

variable {s s' : Wiring} {w w' w'' : World} {stage : Stage} {rest : List Stage}
  {ends : StageEnds} {pid : Pid}

theorem turnsOf_cons (hnext : s.next w = (.ok (some ends), s', w'))
    (hstart : w'.start (Table.rewire ends) stage.args (complaint stage.program) = .ok (pid, w'')) :
    turnsOf s w (stage :: rest) = ⟨ends, w'⟩ :: turnsOf s' (ends.release w'') rest := by
  rw [turnsOf, hnext]
  dsimp only
  rw [hstart]

theorem startStages_cons (hnext : s.next w = (.ok (some ends), s', w'))
    (hstart : w'.start (Table.rewire ends) stage.args (complaint stage.program) = .ok (pid, w'')) :
    startStages s w (stage :: rest) =
      { startStages s' (ends.release w'') rest with
        pids := pid :: (startStages s' (ends.release w'') rest).pids } := by
  rw [startStages, hnext]
  dsimp only
  rw [hstart]

end Cons

/-- All stages have been started, each as a process of its own. -/
structure AllStarted (w : World) (stages : List Stage) (turns : List Turn) (started : Started) :
    Prop where
  failure : started.failure = none
  pids : started.pids = List.range' w.machine.processes.size stages.length
  length : turns.length = stages.length
  processes : started.world.machine.processes.toList =
    w.machine.processes.toList ++ List.zipWith (fun t stage ↦ t.process stage) turns stages

/-- The system has had a pipe and a process whenever one was asked for. -/
def Started.Granted (started : Started) : Prop :=
  (∀ e, started.failure ≠ some (.pipe e)) ∧ ∀ e, started.failure ≠ some (.fork e)

/-- So it has been, and the files of the redirections have been opened. -/
def Started.Provided (started : Started) : Prop :=
  started.Granted ∧ ∀ path purpose cause, started.failure ≠ some (.openFile path purpose cause)

theorem Started.provided {started : Started} (h : started.failure = none) : started.Provided := by
  have hne : ∀ e, started.failure ≠ some e := by
    intro e he
    rw [h] at he
    cases he
  exact ⟨⟨fun _ ↦ hne _, fun _ ↦ hne _⟩, fun _ _ _ ↦ hne _⟩

section Granted

variable {s s' : Wiring} {w w' : World} {ends : StageEnds} {stage : Stage} {rest : List Stage}

theorem Started.Granted.next_ne (h : (startStages s w (stage :: rest)).Granted) (e : Errno) :
    s.next w ≠ (.error (.pipe e), s', w') := by
  intro hnext
  unfold startStages at h
  rw [hnext] at h
  exact h.1 e rfl

/-- A stage that has its descriptors is started, and so it goes on. -/
theorem Started.Granted.exists_start (h : (startStages s w (stage :: rest)).Granted)
    (hnext : s.next w = (.ok (some ends), s', w')) :
    ∃ pid w'', w'.start (Table.rewire ends) stage.args (complaint stage.program) =
      .ok (pid, w'') ∧ (startStages s' (ends.release w'') rest).Granted := by
  unfold startStages at h
  rw [hnext] at h
  dsimp only at h
  cases hstart : w'.start (Table.rewire ends) stage.args (complaint stage.program) with
  | error e =>
      rw [hstart] at h
      exact absurd rfl (h.2 e)
  | ok begun =>
      rw [hstart] at h
      exact ⟨begun.1, begun.2, rfl, h⟩

/-- A system that is short of nothing grants whatever is asked for. -/
theorem granted_startStages (h : w.shortage = .none) (stages : List Stage) :
    (startStages s w stages).Granted := by
  fun_induction startStages s w stages with
  | case1 s w => exact ⟨nofun, nofun⟩
  | case2 s w stage rest e s' w' hnext =>
      obtain ⟨-, hrefuses⟩ := Wiring.refuses_of_next hnext
      cases hrefuses with
      | input hinput =>
          obtain ⟨path, purpose, cause, rfl⟩ := Wiring.nextInput_eq_error hinput
          exact ⟨nofun, nofun⟩
      | output _ _ houtput =>
          obtain ⟨path, purpose, cause, rfl⟩ := Wiring.openEnd_eq_error houtput
          exact ⟨nofun, nofun⟩
      | pipe hinput _ hpipe =>
          have hshortage := (Wiring.prepares_nextInput hinput).shortage.trans h
          rw [World.pipe, hshortage] at hpipe
          cases hpipe
  | case3 s w stage rest s' w' hnext => exact ⟨nofun, nofun⟩
  | case4 s w stage rest ends s' w' hnext e hstart =>
      have hshortage := (s.prepares_next w).shortage.trans h
      rw [hnext] at hshortage
      rw [World.start, hshortage] at hstart
      cases hstart
  | case5 s w stage rest ends s' w' hnext pid w'' hstart started ih =>
      have hprepares := (s.prepares_next w).shortage
      rw [hnext] at hprepares
      apply ih
      rw [(ends.prepares_release w'').shortage, (World.starts_of_start hstart).2.shortage,
        hprepares, h]

theorem granted_start (h : w.shortage = .none) (p : Pipeline) : (p.start w).Granted := by
  unfold start
  split
  · exact ⟨nofun, nofun⟩
  · exact granted_startStages h _

end Granted

theorem allStarted_startStages {s : Wiring} {w : World} {stages : List Stage}
    (hcount : s.index + stages.length ≤ s.count)
    (hprovided : (startStages s w stages).Provided) :
    AllStarted w stages (turnsOf s w stages) (startStages s w stages) := by
  induction stages generalizing s w with
  | nil =>
      refine ⟨rfl, rfl, rfl, ?_⟩
      simp [startStages, turnsOf]
  | cons stage rest ih =>
      have hindex : s.index < s.count := by
        rw [List.length_cons] at hcount
        omega
      obtain ⟨hgranted, hfiles⟩ := hprovided
      rcases Wiring.next_cases hindex w with ⟨path, purpose, cause, s', w', hnext⟩ |
        ⟨e, s', w', hnext⟩ | ⟨ends, s', w', hnext, hindex', hcount'⟩
      · unfold startStages at hfiles
        rw [hnext] at hfiles
        exact absurd rfl (hfiles path purpose cause)
      · exact absurd hnext (hgranted.next_ne e)
      · obtain ⟨pid, w'', hstart, hgranted⟩ := hgranted.exists_start hnext
        have hprepares := (s.prepares_next w).processes
        rw [hnext] at hprepares
        rw [startStages_cons hnext hstart] at hfiles ⊢
        rw [turnsOf_cons hnext hstart]
        obtain ⟨rfl, hstarts⟩ := World.starts_of_start hstart
        have hrest : s'.index + rest.length ≤ s'.count := by
          rw [List.length_cons] at hcount
          omega
        obtain ⟨hfailure, hpids, hturns, hall⟩ := ih hrest ⟨hgranted, hfiles⟩
        rw [StageEnds.machine_release, hstarts.processes] at hpids hall
        refine ⟨hfailure, ?_, ?_, ?_⟩
        · rw [List.length_cons, List.range'_succ, hpids, Array.size_push, hprepares]
        · rw [List.length_cons, List.length_cons, hturns]
        · rw [hall, Array.toList_push, hprepares, List.append_assoc]
          rfl

theorem nulPosition?_of_notMem {a : String} (h : 0 ∉ encode a) :
    PipeShell.nulPosition? a = none := by
  rw [PipeShell.nulPosition?, List.findIdx?_eq_none_iff]
  intro b hb
  have hne : b ≠ 0 := fun hzero ↦ h (hzero ▸ hb)
  simpa using hne

/-- No argument has a byte 0 in it. -/
theorem nulPosition?_eq_none {p : Pipeline}
    (h : ∀ stage ∈ p.stages.toList, ∀ a ∈ stage.args, 0 ∉ encode a) : p.nulPosition? = none := by
  rw [nulPosition?, List.findSome?_eq_none_iff]
  intro a ha
  obtain ⟨stage, hstage, ha⟩ := List.mem_flatMap.1 ha
  exact nulPosition?_of_notMem (h stage hstage a ha)

theorem allStarted_start {p : Pipeline} {w : World}
    (hnul : ∀ stage ∈ p.stages.toList, ∀ a ∈ stage.args, 0 ∉ encode a)
    (hprovided : (p.start w).Provided) :
    AllStarted w p.stages.toList (p.turns w) (p.start w) := by
  have hstart : p.start w = startStages (.ofPipeline p) w p.stages.toList := by
    rw [start, nulPosition?_eq_none hnul]
  rw [hstart] at hprovided ⊢
  apply allStarted_startStages _ hprovided
  rw [Growable.length_toList]
  exact Nat.le_of_eq (Nat.zero_add _)

/-- The process of each stage is the one that was started at its turn. -/
theorem AllStarted.getElem?_processes {w : World} {stages : List Stage} {turns : List Turn}
    {started : Started} (h : AllStarted w stages turns started) {i : Nat} {t : Turn}
    {stage : Stage} (ht : turns[i]? = some t) (hstage : stages[i]? = some stage) :
    started.world.machine.processes[w.machine.processes.size + i]? = some (t.process stage) := by
  rw [← Array.getElem?_toList, h.processes, List.getElem?_append_right (by simp)]
  simp [List.getElem?_zipWith, ht, hstage]

end Pipeline

end PipeShell

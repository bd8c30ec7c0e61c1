import PipeShell.Proofs.Awaiting
import PipeShell.Proofs.EarlyFailures
import PipeShell.Proofs.StageTurns
import PipeShell.Proofs.StandardSlots
import PipeShell.Proofs.Starting

/-!
# Failures at the last stage

The output file is opened when it is the turn of the last stage, so all others are
running when it turns out that this cannot be done.  They are then waited for, each once
and in order, and only the file is told of.  Before that the shell gives up the read end
that the last stage was to get.  No process has a copy of it, so a stage that goes on
writing finds nobody at the other end.
-/

namespace PipeShell

theorem World.events_close {w : World} {fd : Descriptor} (h : (w.table.get? fd).isSome) :
    (w.close fd).events = w.events.push (.closed fd) := by
  unfold close Table.close
  rw [if_pos h]
  rfl

/-- A stage that feeds a pipe is handed the write end, and the shell keeps the read
end. -/
structure Turn.Feeds (t : Turn) (reader : Descriptor) (pipe : PipeId) : Prop where
  stray : t.ends.stray = some reader
  readEnd : t.world.machine.fileAt? t.world.table reader = some (.pipe pipe .reader)
  output : ∃ writer, t.ends.output = .descriptor writer ∧
    t.world.machine.fileAt? t.world.table writer = some (.pipe pipe .writer)

/-- Nobody can read from a pipe, so whoever writes into it fails. -/
structure World.Deserted (w : World) (pipe : PipeId) : Prop where
  unheld : w.machine.held w.table pipe .reader = false
  broken : ∀ t fd bytes, w.machine.fileAt? t fd = some (.pipe pipe .writer) →
    (w.machine.write w.table t fd bytes).1 = .broken

theorem World.Deserted.of_unheld {w : World} {pipe : PipeId}
    (h : w.machine.held w.table pipe .reader = false) : w.Deserted pipe :=
  ⟨h, fun _ _ bytes hfile ↦ Machine.write_broken bytes hfile h⟩

namespace Pipeline

/-! ## Running up to a stage -/

/-- The wiring and the world when stages have been started, unless one is refused. -/
def reach (s : Wiring) (w : World) : List Stage → Option (Wiring × World)
  | [] => some (s, w)
  | stage :: rest =>
      match s.next w with
      | (.ok (some ends), s, w) =>
          match w.start (Table.rewire ends) stage.args (complaint stage.program) with
          | .ok (_, w) => reach s (ends.release w) rest
          | .error _ => none
      | _ => none

/-- The world when all stages but the last have been started and the input of the last
one is there: in this world its output is opened. -/
def atLast (p : Pipeline) (w : World) : Option World :=
  match reach (.ofPipeline p) w p.stages.toList.dropLast with
  | some (s, w) => (s.nextInput w).toOption.map Prod.snd
  | none => none

variable {s s' : Wiring} {w w' : World} {ends : StageEnds} {stage : Stage}
  {front back stages : List Stage}

theorem reach_cons {pid : Pid} {w'' : World} (hnext : s.next w = (.ok (some ends), s', w'))
    (hstart : w'.start (Table.rewire ends) stage.args (complaint stage.program) = .ok (pid, w''))
    (rest : List Stage) : reach s w (stage :: rest) = reach s' (ends.release w'') rest := by
  rw [reach, hnext]
  dsimp only
  rw [hstart]

theorem exists_next_of_reach {rest : List Stage} {r : Wiring × World}
    (h : reach s w (stage :: rest) = some r) :
    ∃ ends s' w' pid w'', s.next w = (.ok (some ends), s', w') ∧
      w'.start (Table.rewire ends) stage.args (complaint stage.program) = .ok (pid, w'') ∧
      reach s' (ends.release w'') rest = some r := by
  unfold reach at h
  split at h
  next ends s' w' hnext =>
    split at h
    next pid w'' hstart => exact ⟨ends, s', w', pid, w'', hnext, hstart, h⟩
    next => cases h
  next => cases h

theorem turnsOf_append (h : reach s w front = some (s', w')) :
    turnsOf s w (front ++ back) = turnsOf s w front ++ turnsOf s' w' back := by
  induction front generalizing s w with
  | nil =>
      cases h
      rfl
  | cons stage rest ih =>
      obtain ⟨ends, s₁, w₁, pid, w₂, hnext, hstart, hrest⟩ := exists_next_of_reach h
      rw [List.cons_append, turnsOf_cons hnext hstart, turnsOf_cons hnext hstart, ih hrest]
      rfl

theorem exists_startStages_append (h : reach s w front = some (s', w')) :
    ∃ pids, startStages s w front = ⟨pids, none, s'.release w'⟩ ∧
      ∀ back, startStages s w (front ++ back) =
        { startStages s' w' back with pids := pids ++ (startStages s' w' back).pids } := by
  induction front generalizing s w with
  | nil =>
      cases h
      exact ⟨[], rfl, fun back ↦ rfl⟩
  | cons stage rest ih =>
      obtain ⟨ends, s₁, w₁, pid, w₂, hnext, hstart, hrest⟩ := exists_next_of_reach h
      obtain ⟨pids, hfront, happend⟩ := ih hrest
      refine ⟨pid :: pids, ?_, fun back ↦ ?_⟩
      · rw [startStages_cons hnext hstart, hfront]
      · rw [List.cons_append, startStages_cons hnext hstart, happend back]
        rfl

theorem unwaited_reach (h : reach s w stages = some (s', w')) : w.Unwaited w' := by
  induction stages generalizing s w with
  | nil =>
      cases h
      exact .of_events rfl
  | cons stage rest ih =>
      obtain ⟨ends, s₁, w₁, pid, w₂, hnext, hstart, hrest⟩ := exists_next_of_reach h
      have hprepared := (s.prepares_next w).unwaited
      rw [hnext] at hprepared
      have hstarted := hprepared.trans (World.unwaited_start hstart)
      exact (hstarted.trans (ends.prepares_release _).unwaited).trans (ih hrest)

/-! ## The read end carried over is the only one -/

variable {p : Pipeline} {w₀ : World} {k : Nat} {carried : Option Descriptor}
  {held : List (Descriptor × Holding)}

/-- Between two stages the shell holds the read end carried over and no more, and no
process has a copy of it. -/
structure Upstream (p : Pipeline) (w₀ : World) (k : Nat) (carried : Option Descriptor)
    (held : List (Descriptor × Holding)) (w : World) : Prop where
  turn : p.AtTurn w₀ k carried held w
  only : (carried = none ∧ held = []) ∨ ∃ fd x, carried = some fd ∧ held = [(fd, x)]
  alone : ∀ i, k = i + 1 → ∀ q ∈ w.machine.processes, ∀ entry ∈ q.table.holdings,
    entry.2.file ≠ p.pipeReader w₀.machine.opened.size i

theorem Upstream.zero (p : Pipeline) (hw : w.Sound) : p.Upstream w 0 none [] w :=
  ⟨.zero p hw, .inl ⟨rfl, rfl⟩, nofun⟩

variable {inputHeld outputHeld strayHeld new : List (Descriptor × Holding)}

/-- What the shell holds when the input of a stage has been taken is that input. -/
theorem Upstream.new_append_held (h : p.Upstream w₀ k carried held w) {e : Endpoint}
    (hleads : e.Leads (p.stageInput w₀.machine.opened.size k) inputHeld)
    (hsource : (k = 0 ∧ new = inputHeld) ∨
      ∃ fd, carried = some fd ∧ 0 < k ∧ new = [] ∧ e = .descriptor fd ∧ inputHeld ⊆ held) :
    new ++ held = inputHeld := by
  rcases hsource with ⟨rfl, rfl⟩ | ⟨fd, rfl, -, rfl, hends, hsubset⟩
  · rcases h.only with ⟨-, rfl⟩ | ⟨fd, x, hcarried, -⟩
    · exact List.append_nil new
    · rcases h.turn.holds with ⟨hnone, -⟩ | ⟨-, i, -, hi, -⟩
      · rw [hcarried] at hnone
        cases hnone
      · cases hi
  · rcases h.only with ⟨hnone, -⟩ | ⟨fd', x, hcarried, rfl⟩
    · cases hnone
    · obtain ⟨file, -, rfl⟩ := Endpoint.Leads.exists_file (hends ▸ hleads)
      rw [List.nil_append, ← List.mem_singleton.1 (hsubset List.mem_cons_self)]

theorem Upstream.prepared (h : p.Upstream w₀ k carried held w)
    (hserved : p.Served w₀ k carried held ends inputHeld outputHeld strayHeld new w') :
    ends.Prepared w₀ (p.stageInput w₀.machine.opened.size k)
      (p.stageOutput w₀.machine.opened.size k) inputHeld outputHeld strayHeld w' := by
  have hborrows := hserved.turn.borrows
  rw [h.new_append_held hserved.input hserved.source, ← List.append_assoc] at hborrows
  refine ⟨hserved.input, hserved.output, ?_, hborrows⟩
  rcases hserved.stray with ⟨hends, rfl, -⟩ | ⟨fd, hends, -, rfl⟩
  · rw [hends]
    rfl
  · rw [hends]
    rfl

theorem size_opened_le_pipeReader (h : p.AtTurn w₀ k carried held w) (hk : k < p.stages.size) :
    w.machine.opened.size ≤ p.pipeReader w₀.machine.opened.size k := by
  rw [h.opened hk]
  cases k with
  | zero => exact le_pipeReader 0
  | succ k => exact Nat.le_refl _

/-- The shell guards the read end that it is going to carry over. -/
theorem guards_of_prepared {fd : Descriptor}
    (h : ends.Prepared w₀ (p.stageInput w₀.machine.opened.size k)
      (p.stageOutput w₀.machine.opened.size k) inputHeld outputHeld
      [(fd, ⟨p.pipeReader w₀.machine.opened.size k, true⟩)] w)
    (hw₀ : w₀.HoldsOpened) (hmore : k + 1 < p.stages.size) :
    w.table.Guards (p.pipeReader w₀.machine.opened.size k) fd := by
  intro entry hentry hfile
  rw [h.borrows.lends.eq] at hentry
  rcases List.mem_append.1 hentry with hentry | hentry
  · rcases List.mem_append.1 hentry with hentry | hentry
    · rcases List.mem_append.1 hentry with hentry | hentry
      · obtain ⟨-, houtput, -⟩ := h.output.eq_of_mem hentry
        rw [hfile] at houtput
        exact absurd (eq_of_stageOutput_eq_pipeReader houtput).2 (Nat.ne_of_lt hmore)
      · exact List.mem_singleton.1 hentry
    · obtain ⟨-, hinput, -⟩ := h.input.eq_of_mem hentry
      rw [hfile] at hinput
      exact absurd (eq_of_stageInput_eq_pipeReader hinput) (Nat.ne_of_lt (Nat.lt_succ_self k))
  · have hold := hw₀.shell entry hentry
    rw [hfile] at hold
    exact absurd (le_pipeReader k) (Nat.not_le.2 hold)

/-- What has been prepared for a stage can be put in its places. -/
theorem Served.exists_rewire
    (h : p.Served w₀ k carried held ends inputHeld outputHeld strayHeld new w)
    (hk : k < p.stages.size) : ∃ table, Table.rewire ends w.table = .ok table := by
  apply Table.exists_rewire_of_open
  · intro fd hinput
    obtain ⟨file, -, hmem⟩ := h.exists_mem_of_input hinput
    rw [h.turn.borrows.lends.get? hmem]
    rfl
  · intro fd houtput
    obtain ⟨file, -, hmem⟩ := h.exists_mem_of_output houtput
    rw [h.turn.borrows.lends.get? hmem]
    rfl
  · intro fd hinput houtput
    obtain ⟨file, hfile, hmem⟩ := h.exists_mem_of_input hinput
    obtain ⟨file', hfile', hmem'⟩ := h.exists_mem_of_output houtput
    have hget := h.turn.borrows.lends.get? hmem
    rw [h.turn.borrows.lends.get? hmem'] at hget
    obtain rfl : file' = file := congrArg Holding.file (Option.some.inj hget)
    exact stageInput_ne_stageOutput hfile hk hfile'

/-- A stage is not given the read end of the pipe that it writes into. -/
theorem alone_of_guards {fd : Descriptor} {q : Process}
    (hserved : p.Served w₀ k carried held ends inputHeld outputHeld strayHeld new w)
    (hstray : ends.stray = some fd) (hmore : k + 1 < p.stages.size)
    (hguards : w.table.Guards (p.pipeReader w₀.machine.opened.size k) fd)
    (hstarts : w.Starts (Table.rewire ends) q w') :
    ∀ entry ∈ q.table.holdings, entry.2.file ≠ p.pipeReader w₀.machine.opened.size k := by
  have hreader := hserved.turn.borrows.lends.get? (hserved.mem_of_stray hstray)
  have hinput : ends.input ≠ .descriptor fd := by
    intro hends
    obtain ⟨file, hfile, hmem⟩ := hserved.exists_mem_of_input hends
    have hget := hserved.turn.borrows.lends.get? hmem
    obtain rfl : file = _ := congrArg Holding.file (Option.some.inj (hget.symm.trans hreader))
    exact absurd (eq_of_stageInput_eq_pipeReader hfile) (Nat.ne_of_lt (Nat.lt_succ_self k))
  have houtput : ends.output ≠ .descriptor fd := by
    intro hends
    obtain ⟨file, hfile, hmem⟩ := hserved.exists_mem_of_output hends
    have hget := hserved.turn.borrows.lends.get? hmem
    obtain rfl : file = _ := congrArg Holding.file (Option.some.inj (hget.symm.trans hreader))
    exact absurd (eq_of_stageOutput_eq_pipeReader hfile).2 (Nat.ne_of_lt hmore)
  obtain ⟨table, hrewire⟩ := hserved.exists_rewire (Nat.lt_of_succ_lt hmore)
  have hnone := hguards.notMem_rewire hstray hinput houtput hrewire
  intro entry hentry
  rcases hstarts.process with ⟨htable, -⟩ | ⟨-, hinherits⟩
  · rw [htable] at hentry
    cases hentry
  · rcases (World.inherits_iff hrewire).1 hinherits with htable | htable
    · exact hnone entry (htable ▸ hentry)
    · rw [htable] at hentry
      exact hnone entry (Table.mem_afterExec.1 hentry).1

/-- When a stage that is not the last one has been started, it is the turn of the next
one. -/
theorem Upstream.of_served (h : p.Upstream w₀ k carried held w) (hw₀ : w₀.HoldsOpened)
    (hmore : k + 1 < p.stages.size)
    (hserved : p.Served w₀ k carried held ends inputHeld outputHeld strayHeld new w')
    (hprocesses : w'.machine.processes = w.machine.processes) {q : Process} {w'' : World}
    (hstarts : w'.Starts (Table.rewire ends) q w'') :
    p.Upstream w₀ (k + 1) ends.stray strayHeld (ends.release w'') := by
  have hprepared := h.prepared hserved
  rcases hserved.stray with ⟨-, -, hlast⟩ | ⟨fd, hstray, -, rfl⟩
  · exact absurd hlast (Nat.ne_of_lt hmore)
  refine ⟨hserved.turn.congr ?_ (hprepared.release (hprepared.borrows.start hstarts)) ?_ ?_ ?_ ?_,
    .inr ⟨fd, _, hstray, rfl⟩, ?_⟩
  · exact (hserved.turn.sound.start hstarts).release ends
  · rw [StageEnds.machine_release, hstarts.opened]
  · rw [StageEnds.machine_release, hstarts.pipes]
  · intro pipe side file
    rw [StageEnds.machine_release, hstarts.isEnd]
  · intro fd' i hfd hi _
    obtain rfl : k = i := Nat.succ.inj hi
    obtain rfl : fd = fd' := Option.some.inj (hstray.symm.trans hfd)
    exact List.mem_cons_self
  · intro i hi q' hq' entry hentry
    obtain rfl : k = i := Nat.succ.inj hi
    rw [StageEnds.machine_release, hstarts.processes] at hq'
    rcases Array.mem_push.1 hq' with hq' | rfl
    · -- The pipe has been made after these processes were started.
      have hlt := h.turn.sound.holdsOpened.processes q' (hprocesses ▸ hq') entry hentry
      have hk : k < p.stages.size := Nat.lt_of_succ_lt hmore
      exact Nat.ne_of_lt (Nat.lt_of_lt_of_le hlt (size_opened_le_pipeReader h.turn hk))
    · exact alone_of_guards hserved hstray hmore (guards_of_prepared hprepared hw₀ hmore)
        hstarts entry hentry

/-- A stage that is not the last one is handed its descriptors and is started. -/
theorem Upstream.exists_next (h : p.Upstream w₀ k carried held w) (hw₀ : w₀.HoldsOpened)
    (hmore : k + 1 < p.stages.size)
    (hinput : k = 0 → ∃ e w₁, Wiring.openEnd p.input .reading w = .ok (e, w₁)) {rest : List Stage}
    (hgranted : (startStages (.before p k carried) w (stage :: rest)).Granted) :
    ∃ ends w' inputHeld outputHeld strayHeld new pid w'',
      (Wiring.before p k carried).next w =
        (.ok (some ends), Wiring.before p (k + 1) ends.stray, w') ∧
      w'.start (Table.rewire ends) stage.args (complaint stage.program) = .ok (pid, w'') ∧
      (startStages (.before p (k + 1) ends.stray) (ends.release w'') rest).Granted ∧
      p.Served w₀ k carried held ends inputHeld outputHeld strayHeld new w' ∧
      p.Upstream w₀ (k + 1) ends.stray strayHeld (ends.release w'') := by
  have hk : k < p.stages.size := Nat.lt_of_succ_lt hmore
  rcases Wiring.next_cases (s := Wiring.before p k carried) hk w with
    ⟨path, purpose, cause, s', w', hnext⟩ | ⟨e, s', w', hnext⟩ | ⟨ends, s', w', hnext, -, -⟩
  · -- Neither file can be at fault: the input opens, and the output is not asked for.
    obtain ⟨-, hrefuses⟩ := Wiring.refuses_of_next hnext
    cases hrefuses with
    | input hrefused =>
        obtain ⟨e, w₁, htake⟩ := h.turn.exists_nextInput hk hinput
        exact nomatch hrefused.symm.trans htake
    | output _ hlast => exact absurd hlast (Nat.ne_of_lt hmore)
  · exact absurd hnext (hgranted.next_ne e)
  · obtain ⟨-, rfl, inputHeld, outputHeld, strayHeld, new, hserved⟩ :=
      h.turn.exists_served hnext
    obtain ⟨pid, w'', hstart, hrest⟩ := hgranted.exists_start hnext
    have hprocesses := ((Wiring.before p k carried).prepares_next w).processes
    rw [hnext] at hprocesses
    exact ⟨ends, w', inputHeld, outputHeld, strayHeld, new, pid, w'', hnext, hstart, hrest, hserved,
      h.of_served hw₀ hmore hserved hprocesses (World.starts_of_start hstart).2⟩

theorem Served.exists_feeds
    (h : p.Served w₀ k carried held ends inputHeld outputHeld strayHeld new w)
    (hmore : k + 1 < p.stages.size) :
    ∃ reader, ends.stray = some reader ∧
      Turn.Feeds ⟨ends, w⟩ reader (w₀.machine.pipes.size + k) := by
  have hmade := h.turn.made k (Nat.lt_succ_self k) hmore
  rcases h.stray with ⟨-, -, hlast⟩ | ⟨reader, hstray, -, -⟩
  · exact absurd hlast (Nat.ne_of_lt hmore)
  have hreader := h.turn.borrows.lends.get? (h.mem_of_stray hstray)
  have houtput := h.output
  have hfile := p.stageOutput_of_ne w₀.machine.opened.size (Nat.ne_of_lt hmore)
  rw [hfile] at houtput
  generalize hends : ends.output = output at houtput
  cases houtput with
  | descriptor writer _ =>
      obtain ⟨file, hfile', hmem⟩ := h.exists_mem_of_output hends
      obtain rfl : _ = file := Option.some.inj (hfile.symm.trans hfile')
      refine ⟨reader, hstray, hstray, ?_, writer, hends, ?_⟩
      · exact Option.bind_eq_some_iff.2
          ⟨_, hreader, Machine.isEnd_eq_true_iff.1 ((hmade.reader _).2 rfl)⟩
      · exact Option.bind_eq_some_iff.2
          ⟨_, h.turn.borrows.lends.get? hmem, Machine.isEnd_eq_true_iff.1 hmade.writer⟩

/-- The last of some stages, none of which is the last of all, has been handed the write
end of the pipe whose read end is carried over. -/
theorem Upstream.exists_reach (h : p.Upstream w₀ k carried held w) (hw₀ : w₀.HoldsOpened)
    (hlength : k + stages.length < p.stages.size)
    (hinput : k = 0 → ∃ e w₁, Wiring.openEnd p.input .reading w = .ok (e, w₁))
    (hgranted : (startStages (.before p k carried) w (stages ++ back)).Granted) :
    ∃ carried' held' w',
      reach (.before p k carried) w stages =
        some (.before p (k + stages.length) carried', w') ∧
      p.Upstream w₀ (k + stages.length) carried' held' w' ∧
      ∀ i, stages.length = i + 1 → ∃ t reader, carried' = some reader ∧
        (turnsOf (.before p k carried) w stages)[i]? = some t ∧
        t.Feeds reader (w₀.machine.pipes.size + (k + i)) := by
  induction stages generalizing k carried held w with
  | nil => exact ⟨carried, held, w, rfl, h, nofun⟩
  | cons stage rest ih =>
      have hlength' : k + 1 + rest.length < p.stages.size := by
        rw [List.length_cons] at hlength
        omega
      have hmore : k + 1 < p.stages.size := by omega
      obtain ⟨ends, w', _, _, _, _, pid, w₁, hnext, hstart, hrest, hserved, hupstream⟩ :=
        h.exists_next hw₀ hmore hinput hgranted
      obtain ⟨carried', held', w'', hreach, hlast, hfeeds⟩ := ih hupstream hlength' nofun hrest
      have hcount : k + (stage :: rest).length = k + 1 + rest.length := by
        rw [List.length_cons]
        omega
      rw [hcount, reach_cons hnext hstart, turnsOf_cons hnext hstart]
      refine ⟨carried', held', w'', hreach, hlast, fun i hi ↦ ?_⟩
      have hi : rest.length = i := Nat.succ.inj hi
      cases i with
      | zero =>
          obtain rfl : rest = [] := List.length_eq_zero_iff.1 hi
          cases hreach
          obtain ⟨reader, hstray, hfeeds⟩ := hserved.exists_feeds hmore
          exact ⟨⟨ends, w'⟩, reader, hstray, rfl, hfeeds⟩
      | succ i =>
          obtain ⟨t, reader, hcarried, hturn, hfeeds⟩ := hfeeds i hi
          refine ⟨t, reader, hcarried, hturn, ?_⟩
          rwa [Nat.add_right_comm k 1 i] at hfeeds

/-! ## The last stage is refused -/

theorem start_of_not_hasNul (hnul : ¬ p.HasNul) :
    p.start w = startStages (.before p 0 none) w p.stages.toList := by
  have hnone : p.nulPosition? = none :=
    nulPosition?_eq_none fun stage hstage a ha hzero ↦ hnul ⟨stage, hstage, a, ha, hzero⟩
  rw [start, hnone]
  rfl

/-- All stages but the last are running, the last one has its input, and its output is
about to be opened. -/
structure LastTurn (p : Pipeline) (w : World) (front : List Stage) (last : Stage)
    (carried : Option Descriptor) (held : List (Descriptor × Holding)) (w' : World)
    (e : Endpoint) (inputHeld new : List (Descriptor × Holding)) (w₁ : World) : Prop where
  stages : p.stages.toList = front ++ [last]
  length : front.length + 1 = p.stages.size
  reach : reach (.before p 0 none) w front = some (.before p front.length carried, w')
  upstream : p.Upstream w front.length carried held w'
  input : (Wiring.before p front.length carried).nextInput w' = .ok (e, w₁)
  taken : p.InputTaken w front.length carried held e inputHeld new w₁
  feeds : ∀ i, front.length = i + 1 → ∃ t reader, carried = some reader ∧
    (turnsOf (.before p 0 none) w front)[i]? = some t ∧
    t.Feeds reader (w.machine.pipes.size + i)

theorem exists_lastTurn (hw : w.Sound) (hstages : p.stages.toList ≠ []) (hnul : ¬ p.HasNul)
    (hgranted : (p.start w).Granted)
    (hinput : ∀ path, p.input = some path → ∃ fd w₁, w.openFile path .read = .ok (fd, w₁)) :
    ∃ front last carried held w' e inputHeld new w₁,
      p.LastTurn w front last carried held w' e inputHeld new w₁ := by
  obtain ⟨front, last, hsplit⟩ : ∃ front last, p.stages.toList = front ++ [last] :=
    ⟨_, _, (List.dropLast_concat_getLast hstages).symm⟩
  have hlength : front.length + 1 = p.stages.size := by
    rw [← Growable.length_toList, hsplit, List.length_append, List.length_singleton]
  have hopens : ∃ e w₁, Wiring.openEnd p.input .reading w = .ok (e, w₁) := by
    cases hpath : p.input with
    | none => exact ⟨.inherited, w, rfl⟩
    | some path =>
        obtain ⟨fd, w₁, hopen⟩ := hinput path hpath
        exact ⟨.descriptor fd, w₁, by simp [Wiring.openEnd, hopen]⟩
  have hmore : 0 + front.length < p.stages.size := by omega
  rw [start_of_not_hasNul hnul, hsplit] at hgranted
  obtain ⟨carried, held, w', hreach, hupstream, hfeeds⟩ :=
    (Upstream.zero p hw).exists_reach hw.holdsOpened hmore (fun _ ↦ hopens) hgranted
  rw [Nat.zero_add] at hreach hupstream hmore
  have hfirst : front.length = 0 → ∃ e w₁, Wiring.openEnd p.input .reading w' = .ok (e, w₁) := by
    intro hzero
    obtain rfl := List.length_eq_zero_iff.1 hzero
    cases hreach
    exact hopens
  obtain ⟨e, w₁, htake⟩ := hupstream.turn.exists_nextInput hmore hfirst
  obtain ⟨inputHeld, new, htaken⟩ := hupstream.turn.exists_inputTaken hmore htake
  refine ⟨front, last, carried, held, w', e, inputHeld, new, w₁, hsplit, hlength, hreach,
    hupstream, htake, htaken, fun i hi ↦ ?_⟩
  obtain ⟨t, reader, hcarried, hturn, hfeeds⟩ := hfeeds i hi
  rw [Nat.zero_add] at hfeeds
  exact ⟨t, reader, hcarried, hturn, hfeeds⟩

namespace LastTurn

variable {last : Stage} {e : Endpoint} {w₁ : World} {path : String} {cause : FileError}

theorem atLast_eq (h : p.LastTurn w front last carried held w' e inputHeld new w₁) :
    p.atLast w = some w₁ := by
  have hreach : Pipeline.reach (.ofPipeline p) w p.stages.toList.dropLast =
      some (.before p front.length carried, w') := by
    rw [h.stages, List.dropLast_concat]
    exact h.reach
  rw [atLast, hreach]
  dsimp only
  rw [h.input]
  rfl

theorem next_eq (h : p.LastTurn w front last carried held w' e inputHeld new w₁)
    (houtput : p.output = some path)
    (hrefused : w₁.openFile path (.write 0o644) = .error cause) :
    (Wiring.before p front.length carried).next w' =
      (.error (.openFile path .writing cause), Wiring.before p front.length none,
        e.release w₁) := by
  have hindex : (Wiring.before p front.length carried).index ≠
      (Wiring.before p front.length carried).count :=
    Wiring.index_before_ne (Nat.lt_of_succ_le (Nat.le_of_eq h.length))
  have hlast : (Wiring.before p front.length carried).index + 1 =
      (Wiring.before p front.length carried).count := h.length
  have hopen : Wiring.openEnd (Wiring.before p front.length carried).output .writing w₁ =
      .error (.openFile path .writing cause) := by
    simp [Wiring.openEnd, Wiring.before, houtput, hrefused]
  rw [Wiring.next, if_neg hindex, h.input]
  dsimp only
  rw [if_pos hlast, hopen]
  rfl

/-- The stages in front are started, and the last one leaves nothing behind. -/
theorem exists_start_eq (h : p.LastTurn w front last carried held w' e inputHeld new w₁)
    (hnul : ¬ p.HasNul) (houtput : p.output = some path)
    (hrefused : w₁.openFile path (.write 0o644) = .error cause) :
    ∃ pids, startStages (.before p 0 none) w front =
        ⟨pids, none, (Wiring.before p front.length carried).release w'⟩ ∧
      p.start w = ⟨pids, some (.openFile path .writing cause), e.release w₁⟩ := by
  have hnext := h.next_eq houtput hrefused
  obtain ⟨pids, hfront, happend⟩ := exists_startStages_append h.reach
  refine ⟨pids, hfront, ?_⟩
  rw [start_of_not_hasNul hnul, h.stages, happend [last], startStages, hnext]
  simp [Wiring.release, Wiring.before]

theorem turns_eq (h : p.LastTurn w front last carried held w' e inputHeld new w₁)
    (houtput : p.output = some path)
    (hrefused : w₁.openFile path (.write 0o644) = .error cause) :
    p.turns w = turnsOf (.before p 0 none) w front := by
  have hnext := h.next_eq houtput hrefused
  rw [turns, h.stages, show Wiring.ofPipeline p = .before p 0 none from rfl,
    turnsOf_append h.reach, turnsOf, hnext]
  exact List.append_nil _

theorem table_release (h : p.LastTurn w front last carried held w' e inputHeld new w₁) :
    (e.release w₁).table = w.table := by
  have hborrows := h.taken.borrows
  rw [h.upstream.new_append_held h.taken.leads h.taken.source] at hborrows
  have hreleased : w.Borrows ([] ++ []) (e.release w₁) :=
    World.Borrows.release h.taken.leads (by simpa using hborrows)
  exact hreleased.lends.eq

/-- The read end that the last stage was to get is given up, and nobody else has it. -/
theorem exists_deserted (h : p.LastTurn w front last carried held w' e inputHeld new w₁)
    (hw : w.Sound) {i : Nat} (hi : front.length = i + 1) :
    ∃ reader, carried = some reader ∧
      (e.release w₁).events = w'.events.push (.closed reader) ∧
      (e.release w₁).machine.held w.table (w.machine.pipes.size + i) .reader = false := by
  have htable := h.table_release
  obtain ⟨hturn, -, halone⟩ := h.upstream
  rcases hturn.holds with ⟨-, hk | hk⟩ | ⟨reader, j, rfl, hj, hmore, hmem⟩
  · exact absurd hk (by omega)
  · exact absurd hk (by have := h.length; omega)
  obtain rfl : i = j := Nat.succ.inj (hi.symm.trans hj)
  have hinput := h.input
  cases hinput
  have hget : (w'.table.get? reader).isSome := by
    rw [hturn.borrows.lends.get? hmem]
    rfl
  refine ⟨reader, rfl, World.events_close hget, ?_⟩
  have hmade := hturn.made i (by omega) (hi ▸ hmore)
  rw [Endpoint.machine_release, ← Bool.not_eq_true, Machine.held_eq_true_iff]
  rintro (⟨entry, hentry, hend⟩ | ⟨q, hq, entry, hentry, hend⟩)
  · have hold := hw.holdsOpened.shell entry hentry
    rw [(hmade.reader _).1 hend] at hold
    exact absurd (le_pipeReader i) (Nat.not_le.2 hold)
  · exact halone i hi q hq entry hentry ((hmade.reader _).1 hend)

/-- Nothing is asked for between giving up that read end and telling of the failure. -/
theorem exists_feeds_deserted (h : p.LastTurn w front last carried held w' e inputHeld new w₁)
    (hw : w.Sound) (d : Diagnostics) (line : String) {i : Nat} (hi : i + 2 = p.stages.size) :
    ∃ t reader requests, (turnsOf (.before p 0 none) w front)[i]? = some t ∧
      t.Feeds reader (w.machine.pipes.size + i) ∧
      (e.release w₁).events.toList = w.events.toList ++ requests ++ [.closed reader] ∧
      (d.write (e.release w₁) line).2.2.Deserted (w.machine.pipes.size + i) := by
  have hi : front.length = i + 1 := Nat.succ.inj (h.length.trans hi.symm)
  obtain ⟨t, reader, hcarried, hturn, hfeeds⟩ := h.feeds i hi
  obtain ⟨reader', hcarried', hclosed, hheld⟩ := h.exists_deserted hw hi
  obtain rfl : reader = reader' := Option.some.inj (hcarried.symm.trans hcarried')
  obtain ⟨requests, hevents, -⟩ := unwaited_reach h.reach
  refine ⟨t, reader, requests, hturn, hfeeds, ?_, .of_unheld ?_⟩
  · rw [hclosed, Array.toList_push, hevents]
  · rw [(d.sameFiles_write (e.release w₁) line).held_eq, (d.own_write _ _).1, h.table_release]
    exact hheld

end LastTurn

/-- A run that starts all stages but the last one.  `line` is what it tells. -/
structure StopsAtLast (sched : Scheduler) (p : Pipeline) (d : Diagnostics) (w : World)
    (line : String) : Prop where
  reached : (p.atLast w).isSome
  /-- Each stage but the last has had its turn, and has been started as one process. -/
  turns : (p.turns w).length + 1 = p.stages.size
  pids : (p.start w).pids = List.range' w.machine.processes.size (p.stages.size - 1)
  processes : (p.start w).world.machine.processes.toList = w.machine.processes.toList ++
    List.zipWith (fun t stage ↦ t.process stage) (p.turns w) p.stages.toList.dropLast
  /-- Only the one line is written, and then the stages are waited for in silence. -/
  execute : p.execute sched d w = (.error, (d.write (p.start w).world line).2.1,
    reap sched (d.write (p.start w).world line).2.2 (p.start w).pids)
  kept : ∀ b, d = .kept b none →
    (p.execute sched d w).2.1 = .kept (b ++ encode line) none
  /-- Nothing that was opened is open any more when the waiting begins. -/
  table : (d.write (p.start w).world line).2.2.table = w.table
  unwaited : w.Unwaited (p.start w).world
  /-- Each process is waited for once, in order, and no other child is. -/
  waited : (p.start w).world.Waited (p.start w).pids w.children (p.execute sched d w).2.2
  /-- The last request before the waiting gives up the read end of the pipe that the last
  of the processes writes into, and by then no one holds it. -/
  deserted : ∀ i, i + 2 = p.stages.size → ∃ t reader requests,
    (p.turns w)[i]? = some t ∧ t.Feeds reader (w.machine.pipes.size + i) ∧
    (p.start w).world.events.toList = w.events.toList ++ requests ++ [.closed reader] ∧
    (d.write (p.start w).world line).2.2.Deserted (w.machine.pipes.size + i)

/-- When the output file cannot be opened and the system has pipes and processes enough, all
stages but the last are started, and what they do is waited for but not told. -/
theorem stops_at_last_stage (sched : Scheduler) (p : Pipeline) (d : Diagnostics) (w : World)
    {path : String} {cause : FileError} (hw : w.Sound) (hstages : p.stages.toList ≠ [])
    (hnul : ¬ p.HasNul) (hgranted : (p.start w).Granted)
    (hinput : ∀ path, p.input = some path → ∃ fd w₁, w.openFile path .read = .ok (fd, w₁))
    (houtput : p.output = some path)
    (hrefused : ∀ w₁, p.atLast w = some w₁ → w₁.openFile path (.write 0o644) = .error cause) :
    p.StopsAtLast sched d w
      s!"exec error: unable to open '{path}' for writing: {cause.message}\n" := by
  obtain ⟨front, last, carried, held, w', e, inputHeld, new, w₁, hlast⟩ :=
    exists_lastTurn hw hstages hnul hgranted hinput
  have hrefused := hrefused w₁ hlast.atLast_eq
  obtain ⟨pids, hfront, hstart⟩ := hlast.exists_start_eq hnul houtput hrefused
  have hturns := hlast.turns_eq houtput hrefused
  have hcount : 0 + front.length ≤ p.stages.size := by
    have := hlast.length
    omega
  have hstarted : AllStarted w front (turnsOf (.before p 0 none) w front)
      (startStages (.before p 0 none) w front) :=
    allStarted_startStages hcount (Started.provided (by rw [hfront]))
  have hline := ExecError.line_openFile path .writing cause
  have hfailure : (p.start w).failure = some (.openFile path .writing cause) := by rw [hstart]
  have htable : (p.start w).world.table = w.table := by
    rw [hstart]
    exact hlast.table_release
  have hrun : p.execute sched d w = _ := execute_of_some hfailure d
  rw [abandon, hline] at hrun
  refine
    { reached := by rw [hlast.atLast_eq]; rfl
      turns := by rw [hturns, hstarted.length, hlast.length]
      pids := ?_
      processes := ?_
      execute := hrun
      kept := ?_
      table := ((d.own_write _ _).1).trans htable
      unwaited := p.unwaited_start w
      waited := waited_execute_start sched p d w
      deserted := fun i hi ↦ ?_ }
  · have hpids := hstarted.pids
    rw [hfront] at hpids
    rw [hstart, ← hlast.length]
    exact hpids
  · have hprocesses := hstarted.processes
    have hinput := (Wiring.prepares_nextInput hlast.input).processes
    rw [hfront, Wiring.machine_release] at hprocesses
    rw [hstart, hturns, hlast.stages, List.dropLast_concat, Endpoint.machine_release, hinput]
    exact hprocesses
  · rintro b rfl
    rw [hrun]
    rfl
  · rw [hturns, hstart]
    exact hlast.exists_feeds_deserted hw d _ hi

/-- Three stages, of which the last one cannot get its output: no file has a name with a
U+0000 in it. -/
theorem stops_at_last_stage_nul_in_name :
    let w := (Scratch.new [("cat", fun _ _ ↦ .exit 0)] [("PATH", "/usr/bin")] [] []).2
    let path := "out\x00"
    let p : Pipeline :=
      ⟨.ofList [.ofProgram "cat", .ofProgram "cat", .ofProgram "cat"], none, some path⟩
    w.Sound ∧ p.stages.toList ≠ [] ∧ ¬ p.HasNul ∧ (p.start w).Granted ∧
      (∀ w₁, p.atLast w = some w₁ → w₁.openFile path (.write 0o644) = .error .nulInName) ∧
      p.StopsAtLast (.fair 8 64) .unlimited w
        s!"exec error: unable to open '{path}' for writing: {FileError.nulInName.message}\n" := by
  intro w path p
  have hw : w.Sound := World.sound_scratch _ _ _ _
  have hstages : p.stages.toList ≠ [] := by decide
  have hnul : ¬ p.HasNul := by decide +kernel
  have hrefused : ∀ w₁, p.atLast w = some w₁ →
      w₁.openFile path (.write 0o644) = .error .nulInName := by
    intro w₁ _
    have hname : World.checkName path = .error .nulInName := if_pos (by simp [path])
    rw [World.openFile, hname]
    rfl
  have hgranted : (p.start w).Granted := granted_start rfl p
  refine ⟨hw, hstages, hnul, hgranted, hrefused,
    stops_at_last_stage _ p _ w hw hstages hnul hgranted (fun input hinput ↦ ?_) rfl hrefused⟩
  cases hinput

end Pipeline

end PipeShell

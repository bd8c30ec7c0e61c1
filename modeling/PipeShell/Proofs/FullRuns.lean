import Mathlib
import PipeShell.Proofs.Complaints
import PipeShell.Proofs.EndedProcesses
import PipeShell.Proofs.StageProcesses
import PipeShell.Proofs.Starting
import PipeShell.System.Scratch

/-!
# Runs of which every stage is started

When all stages of a pipeline have been started they are waited for in order.  In which
order they end, and how, makes no difference to whom the shell waits for: what it is told
of a stage is how that stage ended, before or while it was waited for, and the outcome
and the diagnostics follow from these statuses alone.
-/

namespace PipeShell

namespace World

variable {sched : Scheduler} {w : World} {pid child : Pid} {pids others : List Pid}

/-- How a child ends that is waited for now. -/
def statusOf (sched : Scheduler) (w : World) (pid : Pid) : Status :=
  match w.machine.status? pid with
  | some status => status
  | none => (sched.run w pid).1

theorem statusOf_of_ended {status : Status} (h : w.machine.status? pid = some status) :
    w.statusOf sched pid = status := by
  rw [statusOf, h]

theorem statusOf_of_goes (h : w.machine.status? pid = none) :
    w.statusOf sched pid = (sched.run w pid).1 := by
  rw [statusOf, h]

theorem await_of_mem (h : pid ∈ w.children) :
    (w.await sched pid).1 = (w.statusOf sched pid).told := by
  cases hstatus : w.machine.status? pid <;> simp [await, h, statusOf, hstatus]

/-- Waiting for a child changes the machine as the scheduler says, or not at all. -/
theorem machine_await (sched : Scheduler) (w : World) (pid : Pid) :
    (w.await sched pid).2.machine = w.machine ∨
      (w.await sched pid).2.machine = (sched.run w pid).2 := by
  unfold await
  split
  · dsimp only
    split
    · exact .inl rfl
    · exact .inr rfl
  · exact .inl rfl

theorem keepsEnded_await (hkeeps : sched.Keeps) (w : World) (pid : Pid) :
    w.machine.KeepsEnded (w.await sched pid).2.machine := by
  rcases w.machine_await sched pid with h | h
  · rw [h]
    exact .refl w.machine
  · rw [h]
    exact hkeeps w pid

theorem keepsEnded_awaitAll (hkeeps : sched.Keeps) (w : World) (pids : List Pid) :
    w.machine.KeepsEnded (w.awaitAll sched pids).2.machine := by
  induction pids generalizing w with
  | nil => exact .refl w.machine
  | cons pid rest ih => exact (w.keepsEnded_await hkeeps pid).trans (ih _)

theorem awaitAll_append (w : World) (pids rest : List Pid) :
    (w.awaitAll sched (pids ++ rest)).2 = ((w.awaitAll sched pids).2.awaitAll sched rest).2 := by
  induction pids generalizing w with
  | nil => rfl
  | cons pid pids ih => exact ih _

/-- What each waiting gives is how that child ends then. -/
theorem getElem?_awaitAll (h : w.children.Perm (others ++ pids)) {i : Nat}
    (hi : pids[i]? = some pid) :
    (w.awaitAll sched pids).1[i]? =
      some ((w.awaitAll sched (pids.take i)).2.statusOf sched pid).told := by
  induction pids generalizing w i with
  | nil => simp at hi
  | cons first rest ih =>
      have hrest : (w.await sched first).2.children.Perm (others ++ rest) := children_await_perm h
      cases i with
      | zero =>
          obtain rfl : first = pid := by simpa using hi
          have hmem : first ∈ w.children := h.mem_iff.2 (by simp)
          simp [await_of_mem hmem]
      | succ i =>
          have hi : rest[i]? = some pid := by simpa using hi
          simpa using ih hrest hi

theorem length_awaitAll (w : World) (pids : List Pid) :
    (w.awaitAll sched pids).1.length = pids.length := by
  induction pids generalizing w with
  | nil => rfl
  | cons pid rest ih => simp [ih]

end World

/-! ## Statuses that are given -/

namespace Machine

/-- The process is as it was, or it has ended and with this status. -/
def EndsAs (m m' : Machine) (child : Pid) (status : Status) : Prop :=
  m'.status? child = m.status? child ∨
    m.status? child = none ∧ m'.status? child = some status

theorem EndsAs.trans {m m' m'' : Machine} {child : Pid} {status : Status}
    (h : m.EndsAs m' child status) (h' : m'.EndsAs m'' child status) :
    m.EndsAs m'' child status := by
  rcases h with h | ⟨hnone, h⟩
  · rcases h' with h' | ⟨hnone', h'⟩
    · exact .inl (h'.trans h)
    · exact .inr ⟨h ▸ hnone', h'⟩
  · rcases h' with h' | ⟨hnone', -⟩
    · exact .inr ⟨hnone, h'.trans h⟩
    · rw [h] at hnone'
      cases hnone'

/-- Ends a process that has not ended. -/
def endAs (m : Machine) (child : Pid) (status : Status) : Machine :=
  if (m.status? child).isSome then m else m.endProcess child status

theorem endsAs_endAs (m : Machine) (final : Pid → Status) (other child : Pid) :
    m.EndsAs (m.endAs other (final other)) child (final child) := by
  unfold endAs
  split
  next => exact .inl rfl
  next hgoes =>
    cases hprocess : m.processes[other]? with
    | none =>
        left
        simp [endProcess, hprocess]
    | some p =>
        by_cases hchild : child = other
        · subst hchild
          refine .inr ⟨Option.not_isSome_iff_eq_none.1 hgoes, ?_⟩
          rw [status?_endProcess hprocess, if_pos rfl]
        · left
          rw [status?_endProcess hprocess, if_neg hchild]

theorem endsAs_foldl_endAs (m : Machine) (final : Pid → Status) (pids : List Pid) (child : Pid) :
    m.EndsAs (pids.foldl (fun m other ↦ m.endAs other (final other)) m) child (final child) := by
  induction pids generalizing m with
  | nil => exact .inl rfl
  | cons other pids ih => exact (m.endsAs_endAs final other child).trans (ih _)

end Machine

namespace Scheduler

/-- Each child ends with the status that is given for it, when it is waited for or at any
time before; one that has ended is left alone. -/
structure Assigns (sched : Scheduler) (final : Pid → Status) : Prop where
  status : ∀ w pid, (sched.run w pid).1 = final pid
  others : ∀ (w : World) (pid child : Pid),
    w.machine.EndsAs (sched.run w pid).2 child (final child)

/-- While a child is waited for it ends, and so do others that are named, each with the
status that is given for it. -/
def assigning (final : Pid → Status) (others : World → Pid → List Pid) : Scheduler where
  run w pid :=
    (final pid, (pid :: others w pid).foldl (fun m other ↦ m.endAs other (final other)) w.machine)

/-- Children may end in any order and with any statuses. -/
theorem assigns_assigning (final : Pid → Status) (others : World → Pid → List Pid) :
    (assigning final others).Assigns final :=
  ⟨fun _ _ ↦ rfl, fun w _ child ↦ w.machine.endsAs_foldl_endAs final _ child⟩

variable {sched : Scheduler} {final : Pid → Status}

theorem Assigns.keeps (h : sched.Assigns final) : sched.Keeps := by
  intro w pid child status hended
  rcases h.others w pid child with hsame | ⟨hnone, -⟩
  · rw [hsame, hended]
  · rw [hnone] at hended
    cases hended

theorem Assigns.endsAs_awaitAll (h : sched.Assigns final) (w : World) (pids : List Pid)
    (child : Pid) : w.machine.EndsAs (w.awaitAll sched pids).2.machine child (final child) := by
  induction pids generalizing w with
  | nil => exact .inl rfl
  | cons pid rest ih =>
      have hawait : w.machine.EndsAs (w.await sched pid).2.machine child (final child) := by
        rcases w.machine_await sched pid with hsame | hrun
        · rw [hsame]
          exact .inl rfl
        · rw [hrun]
          exact h.others w pid child
      exact hawait.trans (ih _)

/-- A child that has not ended at first ends as it is to. -/
theorem Assigns.statusOf_awaitAll (h : sched.Assigns final) {w : World} {child : Pid}
    (hgoes : w.machine.status? child = none) (pids : List Pid) :
    (w.awaitAll sched pids).2.statusOf sched child = final child := by
  rcases h.endsAs_awaitAll w pids child with hsame | ⟨-, hended⟩
  · rw [World.statusOf_of_goes (hsame.trans hgoes)]
    exact h.status _ child
  · exact World.statusOf_of_ended hended

end Scheduler

/-! ## What is told -/

/-- What is to be told of a stage with this status.  A signal without a name cannot be told
from a failure to wait. -/
def Status.verdict? (status : Status) (program : String) (index : Nat) : Option String :=
  match status with
  | .exited 0 => none
  | .exited code => some s!"{program} [{index}] exited with code {code}.\n"
  | .signalled number =>
      if number.isNamed then some s!"{program} [{index}] exited abnormally.\n"
      else
        some s!"exec error: unable to wait for {program} [{index}]: {Errno.invalid.symbolic}\n"

theorem Status.verdict?_eq_none_iff {status : Status} {program : String} {index : Nat} :
    status.verdict? program index = none ↔ status = .exited 0 := by
  constructor
  · intro h
    unfold verdict? at h
    split at h
    · rfl
    · cases h
    · split at h <;> cases h
  · rintro rfl
    rfl

namespace Pipeline

/-- What is to be told of the stages, the first of them having the given index, in order. -/
def verdicts (stages : List Stage) (index : Nat) (status : Nat → Status) : List String :=
  (stages.zipIdx index).filterMap fun (stage, i) ↦ (status i).verdict? stage.program i

theorem verdicts_one (stage : Stage) (status : Nat → Status) :
    verdicts [stage] 0 status = ((status 0).verdict? stage.program 0).toList := by
  rw [verdicts, List.zipIdx_singleton]
  cases hverdict : (status 0).verdict? stage.program 0 <;> simp [hverdict]

theorem report?_told (program : String) (index : Nat) (status : Status) :
    report? program index status.told = status.verdict? program index := by
  cases status with
  | exited code =>
      rw [Status.told]
      unfold report? Status.verdict?
      split <;> simp_all
  | signalled number =>
      rw [Status.told, Status.verdict?]
      split
      · rfl
      · rfl

theorem reports_eq_verdicts (stages : List Stage) (index : Nat) (status : Nat → Status) :
    reports index (stages.zip ((List.range' index stages.length).map fun i ↦ (status i).told)) =
      verdicts stages index status := by
  induction stages generalizing index with
  | nil => rfl
  | cons stage rest ih =>
      rw [List.length_cons, List.range'_succ, List.map_cons, List.zip_cons_cons, reports, ih,
        report?_told, verdicts, verdicts, List.zipIdx_cons, List.filterMap_cons]
      cases hverdict : (status index).verdict? stage.program index <;> simp [hverdict]

/-- Nothing is to be told exactly when all stages have ended with code 0. -/
theorem verdicts_eq_nil_iff {stages : List Stage} {status : Nat → Status} :
    verdicts stages 0 status = [] ↔ ∀ i < stages.length, status i = .exited 0 := by
  rw [verdicts, List.filterMap_eq_nil_iff]
  constructor
  · intro h i hi
    have hmem : (stages[i], i) ∈ stages.zipIdx := by
      rw [List.mem_zipIdx_iff_getElem?]
      exact List.getElem?_eq_getElem hi
    exact Status.verdict?_eq_none_iff.1 (h _ hmem)
  · rintro h ⟨stage, i⟩ hmem
    rw [List.mem_zipIdx_iff_getElem?] at hmem
    exact Status.verdict?_eq_none_iff.2 (h i (List.getElem?_eq_some_iff.1 hmem).1)

/-! ## A whole run -/

variable {sched : Scheduler} {p : Pipeline} {w : World}

/-- The world when it is the turn of a stage to be waited for. -/
def waiting (sched : Scheduler) (p : Pipeline) (w : World) (i : Nat) : World :=
  ((p.start w).world.awaitAll sched ((p.start w).pids.take i)).2

/-- How a stage ends, as its process is waited for. -/
def statusAt (sched : Scheduler) (p : Pipeline) (w : World) (i : Nat) : Status :=
  (p.waiting sched w i).statusOf sched (w.machine.processes.size + i)

theorem awaitAll_start (h : AllStarted w p.stages.toList (p.turns w) (p.start w)) :
    ((p.start w).world.awaitAll sched (p.start w).pids).1 =
      (List.range' 0 p.stages.toList.length).map fun i ↦ (p.statusAt sched w i).told := by
  apply List.ext_getElem?
  intro i
  by_cases hi : i < p.stages.toList.length
  · have hpid : (p.start w).pids[i]? = some (w.machine.processes.size + i) := by
      rw [h.pids, List.getElem?_range' hi, Nat.one_mul]
    rw [World.getElem?_awaitAll (.of_eq (p.children_start w)) hpid, List.getElem?_map,
      List.getElem?_range' hi, Nat.one_mul, Nat.zero_add]
    rfl
  · have hlength : p.stages.toList.length ≤ i := Nat.not_lt.1 hi
    rw [List.getElem?_eq_none, List.getElem?_eq_none]
    · rwa [List.length_map, List.length_range']
    · rwa [World.length_awaitAll, h.pids, List.length_range']

theorem execute_of_allStarted (sched : Scheduler) (b : Bytes)
    (h : AllStarted w p.stages.toList (p.turns w) (p.start w)) :
    ∃ w', p.execute sched (.kept b none) w =
      (if verdicts p.stages.toList 0 (p.statusAt sched w) = [] then .ok else .error,
        .kept (b ++ told (verdicts p.stages.toList 0 (p.statusAt sched w))) none, w') := by
  have hlength : (p.start w).pids.length = p.stages.toList.length := by
    rw [h.pids, List.length_range']
  have hpids : (p.stages.toList.zip (p.start w).pids).map Prod.snd = (p.start w).pids :=
    List.map_snd_zip (Nat.le_of_eq hlength)
  have hrun : p.execute sched (.kept b none) w = _ := execute_of_none h.failure _
  rw [collect_kept, hpids] at hrun
  dsimp only at hrun
  rw [awaitAll_start h, reports_eq_verdicts] at hrun
  exact ⟨_, hrun⟩

/-- How a stage has ended when one of the stages up to it is waited for is how it ends. -/
theorem statusAt_of_ended (hkeeps : sched.Keeps) {i k : Nat} {status : Status} (hk : k ≤ i)
    (h : (p.waiting sched w k).machine.status? (w.machine.processes.size + i) = some status) :
    p.statusAt sched w i = status := by
  have htake : (p.start w).pids.take i =
      (p.start w).pids.take k ++ ((p.start w).pids.take i).drop k := by
    have hmin : ((p.start w).pids.take i).take k = (p.start w).pids.take k := by
      rw [List.take_take, Nat.min_eq_left hk]
    rw [← hmin, List.take_append_drop]
  apply World.statusOf_of_ended
  rw [waiting, htake, World.awaitAll_append]
  exact World.keepsEnded_awaitAll hkeeps _ _ _ _ h

/-- Before anything is waited for, a stage has ended if its process has. -/
theorem status?_start (h : AllStarted w p.stages.toList (p.turns w) (p.start w)) {i : Nat}
    {t : Turn} {stage : Stage} (ht : (p.turns w)[i]? = some t)
    (hstage : p.stages.toList[i]? = some stage) :
    (p.start w).world.machine.status? (w.machine.processes.size + i) =
      (t.process stage).ended := by
  rw [Machine.status?, h.getElem?_processes ht hstage]
  rfl

end Pipeline

/-! ## Stages that cannot be started -/

namespace Turn

/-- The stage has its streams, but nobody can read what it has to say. -/
def Unread (t : Turn) : Prop :=
  ∃ table, Table.rewire t.ends t.world.table = .ok table ∧
    t.world.machine.Unread t.world.table table 2

/-- The stage still has to say why it cannot become its program: there was no room for it. -/
def Waits (t : Turn) (stage : Stage) : Prop :=
  (t.process stage).ended = none ∧
    ∃ rest, rest ≠ [] ∧ (t.process stage).program = .saying rest

variable {t : Turn} {stage : Stage} {e : StartError}

theorem process_of_prospect {table : Table} {program : Program}
    (h : t.prospect stage = .ok (table, program)) :
    t.process stage = .new table t.world.cwd program := by
  rw [process, World.launch_of_prospect h]

/-- What the process of a stage is that has to complain. -/
def plaintiff (t : Turn) (table : Table) : Process :=
  .new table t.world.cwd default

theorem process_of_streams {cause : Errno}
    (hrewire : Table.rewire t.ends t.world.table = .error cause) :
    t.process stage = (t.world.machine.say t.world.table
      { t.plaintiff t.world.table with handled := [(Signal.brokenPipe, .ignore)] }
      ((Pipeline.complaint stage.program (.streams cause)).map encode)).1 := by
  simp [process, World.launch, hrewire, plaintiff]

theorem process_of_program {cause : Errno} {table : Table}
    (hrewire : Table.rewire t.ends t.world.table = .ok table)
    (hload : t.world.machine.load t.world.cwd t.world.environment stage.args = .error cause) :
    t.process stage = (t.world.machine.say t.world.table (t.plaintiff table)
      ((Pipeline.complaint stage.program (.program cause)).map encode)).1 := by
  simp [process, World.launch, hrewire, hload, plaintiff]

/-- A stage that cannot be started is at its end, or has more to say, unless nobody can read
it. -/
theorem process_of_prospect_error (h : t.prospect stage = .error e) (hread : ¬ t.Unread) :
    (∃ q : Process, t.process stage = q.finished (.exited 127)) ∨
      ∃ (q : Process) (rest : List Bytes), q.ended = none ∧ rest ≠ [] ∧
        t.process stage = { q with program := .saying rest } := by
  rcases World.prospect_eq_error h with ⟨cause, rfl, hrewire⟩ |
    ⟨cause, table, rfl, hrewire, hload⟩
  · -- Broken pipes are ignored as long as the streams are not in place.
    have hignores : ({ t.plaintiff t.world.table with
        handled := [(Signal.brokenPipe, .ignore)] } : Process).disposition Signal.brokenPipe =
          .ignore := rfl
    rw [process_of_streams hrewire]
    rcases t.world.machine.say_of_heard t.world.table (.inl hignores)
      ((Pipeline.complaint stage.program (.streams cause)).map encode) with
        hsay | ⟨rest, hrest, hsay⟩
    · exact .inl ⟨_, hsay⟩
    · exact .inr ⟨_, rest, rfl, hrest, hsay⟩
  · have hheard : ¬ t.world.machine.Unread t.world.table (t.plaintiff table).table 2 :=
      fun hunread ↦ hread ⟨table, hrewire, hunread⟩
    rw [process_of_program hrewire hload]
    rcases t.world.machine.say_of_heard t.world.table (.inr hheard)
      ((Pipeline.complaint stage.program (.program cause)).map encode) with
        hsay | ⟨rest, hrest, hsay⟩
    · exact .inl ⟨_, hsay⟩
    · exact .inr ⟨_, rest, rfl, hrest, hsay⟩

theorem ended_of_prospect_error (h : t.prospect stage = .error e) (hread : ¬ t.Unread)
    (hroom : ¬ t.Waits stage) : (t.process stage).ended = some (.exited 127) := by
  rcases process_of_prospect_error h hread with ⟨q, hq⟩ | ⟨q, rest, hended, hrest, hq⟩
  · rw [hq]
    rfl
  · refine (hroom ⟨?_, rest, hrest, ?_⟩).elim
    · rw [hq]
      exact hended
    · rw [hq]

/-- What goes to a file is said at once. -/
theorem ended_of_file {cause : Errno} {table : Table}
    (h : t.prospect stage = .error (.program cause))
    (hrewire : Table.rewire t.ends t.world.table = .ok table)
    (hfile : ∀ pipe, t.world.machine.fileAt? table 2 ≠ some (.pipe pipe .writer)) :
    (t.process stage).ended = some (.exited 127) := by
  rcases World.prospect_eq_error h with ⟨_, ⟨⟩, -⟩ | ⟨cause', table', heq, hrewire', hload⟩
  obtain rfl : cause = cause' := StartError.program.inj heq
  obtain rfl : table = table' := Except.ok.inj (hrewire.symm.trans hrewire')
  have hsays : ∀ pipe, t.world.machine.fileAt? (t.plaintiff table).table 2 ≠
      some (.pipe pipe .writer) := hfile
  rw [process_of_program hrewire hload, Machine.say_of_file hsays]
  rfl

theorem ended_of_unread {cause : Errno} (h : t.prospect stage = .error (.program cause))
    (hunread : t.Unread) : (t.process stage).ended = some (.signalled Signal.brokenPipe) := by
  obtain ⟨table, hrewire, hunread⟩ := hunread
  rcases World.prospect_eq_error h with ⟨_, ⟨⟩, -⟩ | ⟨cause', table', heq, hrewire', hload⟩
  obtain rfl : cause = cause' := StartError.program.inj heq
  obtain rfl : table = table' := Except.ok.inj (hrewire.symm.trans hrewire')
  have hminds : (t.plaintiff table).disposition Signal.brokenPipe ≠ .ignore := nofun
  have hparts : (Pipeline.complaint stage.program (.program cause)).map encode ≠ [] := nofun
  rw [process_of_program hrewire hload, Machine.say_of_unread hminds hunread hparts]
  rfl

end Turn

namespace Pipeline

variable {sched : Scheduler} {p : Pipeline} {w : World}

/-- What it is for all stages of a pipeline to be started, waited for and told of. -/
structure FullRun (sched : Scheduler) (p : Pipeline) (b : Bytes) (w : World) : Prop where
  started : AllStarted w p.stages.toList (p.turns w) (p.start w)
  /-- Each process is waited for once, in order, when all have been started. -/
  waited : ∃ requests : List Event, (∀ pid, .awaited pid ∉ requests) ∧
    (p.execute sched (.kept b none) w).2.2.events.toList =
      w.events.toList ++ requests ++ (p.start w).pids.map .awaited
  children : (p.execute sched (.kept b none) w).2.2.children.Perm w.children
  outcome : (p.execute sched (.kept b none) w).1 = .ok ↔
    ∀ i < p.stages.size, p.statusAt sched w i = .exited 0
  diagnostics : (p.execute sched (.kept b none) w).2.1 =
    .kept (b ++ told (verdicts p.stages.toList 0 (p.statusAt sched w))) none
  /-- A stage that has ended before its turn is told of as it ended. -/
  early : ∀ i k status, k ≤ i →
    (p.waiting sched w k).machine.status? (w.machine.processes.size + i) = some status →
      p.statusAt sched w i = status
  /-- A stage whose program cannot be started counts as ended with code 127 when it can say
  so. -/
  refused : ∀ (i : Nat) (t : Turn) (stage : Stage) (e : StartError), (p.turns w)[i]? = some t →
    p.stages.toList[i]? = some stage → t.prospect stage = .error e → ¬ t.Unread →
      ¬ t.Waits stage → p.statusAt sched w i = .exited 127
  /-- If nobody can read what it says, that ends it. -/
  unread : ∀ (i : Nat) (t : Turn) (stage : Stage) (cause : Errno), (p.turns w)[i]? = some t →
    p.stages.toList[i]? = some stage → t.prospect stage = .error (.program cause) →
      t.Unread → p.statusAt sched w i = .signalled Signal.brokenPipe
  becomes : ∀ (i : Nat) (t : Turn) (stage : Stage) (table : Table) (program : Program),
    (p.turns w)[i]? = some t → p.stages.toList[i]? = some stage →
      t.prospect stage = .ok (table, program) →
        t.process stage = .new table t.world.cwd program
  /-- A stage that has not ended at once ends as it is to, if that is given, in whichever
  order they end. -/
  assigned : ∀ final, sched.Assigns final → ∀ (i : Nat) (t : Turn) (stage : Stage),
    (p.turns w)[i]? = some t → p.stages.toList[i]? = some stage →
      (t.process stage).ended = none →
        p.statusAt sched w i = final (w.machine.processes.size + i)

/-- When no argument has a byte 0 in it, the files of the redirections can be opened and the
system has pipes and processes enough, all stages are started and waited for, whatever
becomes of any of them. -/
theorem fullRun_of_opened (sched : Scheduler) (hkeeps : sched.Keeps) (p : Pipeline) (b : Bytes)
    (w : World) (hnul : ∀ stage ∈ p.stages.toList, ∀ a ∈ stage.args, 0 ∉ encode a)
    (hprovided : (p.start w).Provided) : p.FullRun sched b w := by
  have hstarted := allStarted_start hnul hprovided
  have hwaited := waited_execute_start sched p (.kept b none) w
  obtain ⟨w', hrun⟩ := execute_of_allStarted sched b hstarted
  have hended {i : Nat} {t : Turn} {stage : Stage} {status : Status}
      (ht : (p.turns w)[i]? = some t) (hstage : p.stages.toList[i]? = some stage)
      (hprocess : (t.process stage).ended = some status) : p.statusAt sched w i = status :=
    statusAt_of_ended hkeeps (Nat.zero_le i) ((status?_start hstarted ht hstage).trans hprocess)
  refine
    { started := hstarted
      waited := ?_
      children := hwaited.children
      outcome := ?_
      diagnostics := by rw [hrun]
      early := fun i k status hk h ↦ statusAt_of_ended hkeeps hk h
      refused := fun i t stage e ht hstage hprospect hread hroom ↦ ?_
      unread := fun i t stage cause ht hstage hprospect hunread ↦ ?_
      becomes := fun i t stage table program _ _ hprospect ↦ t.process_of_prospect hprospect
      assigned := fun final hfinal i t stage ht hstage hgoes ↦ ?_ }
  · obtain ⟨requests, hrequests, hnone⟩ := p.unwaited_start w
    refine ⟨requests, hnone, ?_⟩
    rw [hwaited.events, ← hrequests, Array.toList_append]
  · rw [hrun, ← Growable.length_toList, ← verdicts_eq_nil_iff]
    dsimp only
    split <;> simp_all
  · exact hended ht hstage (Turn.ended_of_prospect_error hprospect hread hroom)
  · exact hended ht hstage (Turn.ended_of_unread hprospect hunread)
  · exact hfinal.statusOf_awaitAll ((status?_start hstarted ht hstage).trans hgoes) _

/-- The program of the first of three stages has no name, so it cannot be started. -/
theorem fullRun_of_opened_unnamed :
    let w := (Scratch.new [("cat", fun _ _ ↦ .exit 0)] [("PATH", "/usr/bin")] [] []).2
    let p : Pipeline := ⟨.ofList [.ofProgram "", .ofProgram "cat", .ofProgram "cat"], none, none⟩
    FullRun (.fair 8 64) p [] w ∧ p.statusAt (.fair 8 64) w 0 = .exited 127 := by
  intro w p
  have hnul : ∀ stage ∈ p.stages.toList, ∀ a ∈ stage.args, 0 ∉ encode a := by decide +kernel
  have hprovided : (p.start w).Provided := Started.provided (by decide +kernel)
  have hrun : FullRun (.fair 8 64) p [] w :=
    fullRun_of_opened _ (Scheduler.keeps_fair 8 64) p [] w hnul hprovided
  let t : Turn := ⟨⟨.inherited, .descriptor 4, some 3⟩, w.makePipe.2.2⟩
  let table : Table := ⟨[(1, ⟨4, false⟩), (0, ⟨0, false⟩), (2, ⟨2, false⟩)]⟩
  have ht : (p.turns w)[0]? = some t := by
    obtain ⟨pid, w', hstart⟩ := t.world.exists_start rfl (Table.rewire t.ends)
      (Stage.ofProgram "").args (complaint (Stage.ofProgram "").program)
    exact congrArg (·[0]?) (turnsOf_cons rfl hstart)
  have hbefore : t.world.table = ⟨[(4, ⟨4, true⟩), (3, ⟨3, true⟩), (0, ⟨0, false⟩),
      (1, ⟨1, false⟩), (2, ⟨2, false⟩)]⟩ := rfl
  have hrewire : Table.rewire t.ends t.world.table = .ok table := by
    rw [hbefore]
    rfl
  have hprospect : t.prospect (.ofProgram "") = .error (.program .noEntry) := by
    have hargs : (Stage.ofProgram "").args = [""] := rfl
    rw [Turn.prospect, World.prospect, hrewire, hargs]
    rfl
  obtain ⟨errors, herrors⟩ : ∃ errors,
      t.world.machine.fileAt? table 2 = some (.node errors .write 0 true) := ⟨_, rfl⟩
  have hfile : ∀ pipe, t.world.machine.fileAt? table 2 ≠ some (.pipe pipe .writer) := by
    intro pipe hpipe
    rw [herrors] at hpipe
    cases hpipe
  have hread : ¬ t.Unread := by
    rintro ⟨table', hrewire', pipe, hpipe, -⟩
    obtain rfl : table = table' := Except.ok.inj (hrewire.symm.trans hrewire')
    exact hfile pipe hpipe
  have hroom : ¬ t.Waits (.ofProgram "") := by
    rintro ⟨hgoes, -⟩
    rw [Turn.ended_of_file hprospect hrewire hfile] at hgoes
    cases hgoes
  exact ⟨hrun, hrun.refused 0 t _ _ ht rfl hprospect hread hroom⟩

/-- A single stage without redirections is handed the streams of the shell. -/
theorem start_one {stage : Stage} {pid : Pid} {w' : World} (hnul : ∀ a ∈ stage.args, 0 ∉ encode a)
    (hstart : w.start (Table.rewire ⟨.inherited, .inherited, none⟩) stage.args
      (complaint stage.program) = .ok (pid, w')) :
    start ⟨.ofList [stage], none, none⟩ w = ⟨[pid], none, w'⟩ := by
  let p : Pipeline := ⟨.ofList [stage], none, none⟩
  have hnone : p.nulPosition? = none := by
    apply nulPosition?_eq_none
    intro other hother
    obtain rfl : other = stage := List.mem_singleton.1 hother
    exact hnul
  have hnext : (Wiring.ofPipeline p).next w = (.ok (some ⟨.inherited, .inherited, none⟩),
      { Wiring.ofPipeline p with index := 1 }, w) := rfl
  rw [start, hnone]
  exact startStages_cons hnext hstart

/-- A stage that kills itself by a signal without a name is told of as if waiting for it had
failed. -/
theorem not_told_abnormally :
    let killsItself : Program := .call (.signal (Machine.processNumber 0) 34) fun _ ↦ .exit 0
    let w : World :=
      ⟨⟨⟨#[.directory [("sh", 1)] 0 0o755, .program fun _ _ ↦ killsItself, .device .null]⟩,
        #[.node 2 .both 0 false], #[], #[], 0⟩,
        ⟨[(0, ⟨0, false⟩), (1, ⟨0, false⟩), (2, ⟨0, false⟩)]⟩, Tree.root, [], #[],
        [("PATH", "")], .none⟩
    let p : Pipeline := ⟨.ofList [.ofProgram "sh"], none, none⟩
    let sched : Scheduler := .fair 2 8
    let diagnostics := (p.execute sched (.kept [] none) w).2.1
    (∀ stage ∈ p.stages.toList, ∀ a ∈ stage.args, 0 ∉ encode a) ∧ (p.start w).Provided ∧
      sched.Keeps ∧ p.statusAt sched w 0 = .signalled 34 ∧
        diagnostics =
          .kept (encode "exec error: unable to wait for sh [0]: EINVAL: Invalid argument\n") none ∧
        diagnostics ≠ .kept (encode "sh [0] exited abnormally.\n") none := by
  intro killsItself w p sched diagnostics
  have hresolve : w.machine.tree.resolve w.cwd "sh" = .ok 1 := by cbv
  have hfile : w.machine.loadFile w.cwd w.environment Machine.interpreterLimit "sh" ["sh"] =
      .ok killsItself := by
    rw [Machine.loadFile.eq_def, hresolve]
    rfl
  -- The search path is empty, so the name is looked for in the current directory.
  have hpath : ((w.environment.value? "PATH").getD Machine.usualPath).splitOn ":" = [""] := by cbv
  have hslash : "sh".contains '/' = false := by cbv
  have hload : w.machine.load w.cwd w.environment ["sh"] = .ok killsItself := by
    rw [Machine.load, if_neg (by decide), hslash]
    dsimp only
    rw [hpath, if_neg Bool.false_ne_true, Machine.search, Machine.pathIn, if_pos rfl,
      Machine.loadPath, hfile]
  have hnul : ∀ a ∈ (Stage.ofProgram "sh").args, 0 ∉ encode a := by decide +kernel
  have hprospect : Turn.prospect ⟨⟨.inherited, .inherited, none⟩, w⟩ (.ofProgram "sh") =
      .ok (w.table, killsItself) := by
    have hrewire : Table.rewire ⟨.inherited, .inherited, none⟩ w.table = .ok w.table := rfl
    have hargs : (Stage.ofProgram "sh").args = ["sh"] := rfl
    rw [Turn.prospect, World.prospect, hrewire, hargs]
    dsimp only
    rw [hload]
    rfl
  have hstart : p.start w = _ := start_one hnul (World.start_of_prospect rfl hprospect)
  have hprovided : (p.start w).Provided := Started.provided (by rw [hstart])
  have hstatus : p.statusAt sched w 0 = .signalled 34 := by
    rw [statusAt, waiting, hstart]
    cbv
  have hnul : ∀ stage ∈ p.stages.toList, ∀ a ∈ stage.args, 0 ∉ encode a := by
    intro stage hstage
    obtain rfl : stage = .ofProgram "sh" := List.mem_singleton.1 hstage
    exact hnul
  have hverdicts : verdicts p.stages.toList 0 (p.statusAt sched w) =
      ["exec error: unable to wait for sh [0]: EINVAL: Invalid argument\n"] := by
    have hone : verdicts p.stages.toList 0 (p.statusAt sched w) =
        ((p.statusAt sched w 0).verdict? "sh" 0).toList := verdicts_one _ _
    rw [hone, hstatus]
    decide +kernel
  have hdiagnostics : diagnostics =
      .kept (encode "exec error: unable to wait for sh [0]: EINVAL: Invalid argument\n") none := by
    obtain ⟨w', hrun⟩ := execute_of_allStarted sched [] (allStarted_start hnul hprovided)
    have htold : told ["exec error: unable to wait for sh [0]: EINVAL: Invalid argument\n"] =
        encode "exec error: unable to wait for sh [0]: EINVAL: Invalid argument\n" := by
      decide +kernel
    rw [hverdicts, htold] at hrun
    exact congrArg (·.2.1) hrun
  refine ⟨hnul, hprovided, Scheduler.keeps_fair 2 8, hstatus, hdiagnostics, ?_⟩
  rw [hdiagnostics]
  decide +kernel

end Pipeline

end PipeShell

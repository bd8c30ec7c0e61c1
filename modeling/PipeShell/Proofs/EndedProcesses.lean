import PipeShell.Proofs.Requests
import PipeShell.System.Scheduler

/-!
# What has ended stays ended

No request of a process changes how another one has ended, and a process that has ended
makes no more requests.  So however long the processes of a machine go on, each of them
ends once; in particular the fair scheduler leaves all that have ended alone.
-/

namespace PipeShell

namespace Machine

/-- The processes that have ended are still there and ended as they did. -/
def KeepsEnded (m m' : Machine) : Prop :=
  ∀ pid status, m.status? pid = some status → m'.status? pid = some status

variable {m m' m'' : Machine}

theorem KeepsEnded.refl (m : Machine) : m.KeepsEnded m :=
  fun _ _ h ↦ h

theorem KeepsEnded.trans (h : m.KeepsEnded m') (h' : m'.KeepsEnded m'') : m.KeepsEnded m'' :=
  fun pid status hended ↦ h' pid status (h pid status hended)

theorem keepsEnded_of_processes (h : m'.processes = m.processes) : m.KeepsEnded m' := by
  intro pid status hended
  rw [status?, h]
  exact hended

/-! ## Changes to the processes -/

theorem status?_update (m : Machine) (pid : Pid) {f : Process → Process}
    (hf : ∀ p, (f p).ended = p.ended) (child : Pid) :
    (m.update pid f).status? child = m.status? child := by
  simp only [update, status?, Array.getElem?_modify]
  split
  · cases m.processes[child]? with
    | none => rfl
    | some p => exact hf p
  · rfl

theorem keepsEnded_update (m : Machine) (pid : Pid) {f : Process → Process}
    (hf : ∀ p, (f p).ended = p.ended) : m.KeepsEnded (m.update pid f) := by
  intro child status hended
  rw [status?_update m pid hf]
  exact hended

theorem status?_addProcess (m : Machine) (p : Process) (child : Pid) :
    (m.addProcess p).2.status? child =
      if child = m.processes.size then p.ended else m.status? child := by
  simp only [addProcess, status?, Array.getElem?_push]
  split <;> rfl

theorem keepsEnded_addProcess (m : Machine) (p : Process) : m.KeepsEnded (m.addProcess p).2 := by
  intro child status hended
  have hne : child ≠ m.processes.size := by
    rintro rfl
    simp [status?] at hended
  rw [status?_addProcess, if_neg hne]
  exact hended

theorem status?_endProcess {p : Process} {pid : Pid} (h : m.processes[pid]? = some p)
    (status : Status) (child : Pid) :
    (m.endProcess pid status).status? child =
      if child = pid then some status else m.status? child := by
  have hpid : pid < m.processes.size := (Array.getElem?_eq_some_iff.1 h).1
  simp only [endProcess, h, setProcess, status?]
  split
  next hchild =>
    rw [hchild, Array.getElem?_setIfInBounds_self_of_lt hpid]
    rfl
  next hchild => rw [Array.getElem?_setIfInBounds_ne (Ne.symm hchild)]

/-- Only a process that goes on is ended. -/
theorem keepsEnded_endProcess {p : Process} {pid : Pid} (h : m.processes[pid]? = some p)
    (hp : p.ended = none) (status : Status) : m.KeepsEnded (m.endProcess pid status) := by
  intro child status' hended
  have hne : child ≠ pid := by
    rintro rfl
    rw [Machine.status?, h] at hended
    simp [hp] at hended
  rw [status?_endProcess h, if_neg hne]
  exact hended

theorem keepsEnded_deliver (m : Machine) (pid : Pid) (number : Signal) :
    m.KeepsEnded (m.deliver pid number) := by
  unfold deliver
  split
  next => exact .refl m
  next p hp =>
    split
    next => exact .refl m
    next hgoes =>
      have hended : p.ended = none := by
        cases h : p.ended <;> simp [h] at hgoes ⊢
      split
      · exact keepsEnded_endProcess hp hended _
      split
      · exact .refl m
      · apply keepsEnded_update
        intro p
        split <;> rfl
      · split
        · exact .refl m
        · exact keepsEnded_endProcess hp hended _

/-! ## Requests of a process -/

theorem processes_openFile {t : Table} {mask : Nat} {cwd : NodeId} {path : String}
    {mode : OpenMode} {file : FileId} (h : m.openFile t mask cwd path mode = .ok (file, m')) :
    m'.processes = m.processes := by
  -- Except for reading and changing, the file is first found or made in the tree.
  cases mode with
  | read => exact (opens_read h).processes
  | write permissions => exact (opens_write h).processes
  | append permissions | create permissions =>
      obtain ⟨⟨id, m₁⟩, hmade, h⟩ := exists_of_bind_eq_ok h
      obtain ⟨⟨id, tree⟩, -, hmade⟩ := exists_of_bind_eq_ok hmade
      cases hmade
      exact (opens_openNode_tree h).processes
  | both permissions =>
      obtain ⟨⟨id, m₁⟩, hmade, h⟩ := exists_of_bind_eq_ok h
      obtain ⟨⟨id, tree⟩, -, hmade⟩ := exists_of_bind_eq_ok hmade
      cases hmade
      dsimp only at h
      split at h
      · cases h
      · exact (opens_openNode_tree h).processes
  | change =>
      obtain ⟨id, -, h⟩ := exists_of_bind_eq_ok h
      dsimp only at h
      split at h
      · rw [if_pos rfl] at h
        cases h
      · rw [if_neg Bool.false_ne_true] at h
        split at h
        · cases h
        · exact (opens_openNode h).processes

theorem processes_read (m : Machine) (shell t : Table) (fd : Descriptor) (limit : Nat) :
    (m.read shell t fd limit).2.processes = m.processes := by
  unfold read
  split
  next h =>
    unfold readFile
    split
    · split
      · rfl
      · split <;> rfl
    · split
      · rfl
      · split <;> rfl
    · rfl
  next => rfl

theorem keepsEnded_read {shell t : Table} {fd : Descriptor} {limit : Nat} {reply : ReadReply}
    (h : m.read shell t fd limit = (reply, m')) : m.KeepsEnded m' := by
  apply keepsEnded_of_processes
  rw [← m.processes_read shell t fd limit, h]

theorem keepsEnded_write {shell t : Table} {fd : Descriptor} {data : Bytes} {reply : WriteReply}
    (h : m.write shell t fd data = (reply, m')) : m.KeepsEnded m' := by
  apply keepsEnded_of_processes
  rw [← (m.sameFiles_write shell t fd data).processes, h]

theorem processes_seek {t : Table} {fd : Descriptor} {place : Nat}
    (h : m.seek t fd place = .ok m') : m'.processes = m.processes := by
  unfold seek at h
  split at h
  · cases h
  · split at h
    · cases h
      rfl
    · cases h

theorem processes_resize {t : Table} {fd : Descriptor} {size : Nat}
    (h : m.resize t fd size = .ok m') : m'.processes = m.processes := by
  unfold resize at h
  split at h
  · split at h
    · dsimp only at h
      split at h
      · cases h
        rfl
      · cases h
    · cases h
  · cases h
  · cases h

theorem keepsEnded_granted {result : Except Errno Machine} {reply : Reply}
    (hkeeps : ∀ m', result = .ok m' → m.KeepsEnded m') (h : m.granted result = (reply, m')) :
    m.KeepsEnded m' := by
  cases result with
  | error e =>
      cases h
      exact .refl m
  | ok m₁ =>
      cases h
      exact hkeeps _ rfl

theorem keepsEnded_onTree {result : Except Errno Tree} {reply : Reply}
    (h : m.onTree result = (reply, m')) : m.KeepsEnded m' := by
  refine keepsEnded_granted ?_ h
  intro m₁ hm₁
  apply keepsEnded_of_processes
  cases result with
  | error e => cases hm₁
  | ok tree =>
      cases hm₁
      rfl

theorem keepsEnded_onTable {pid : Pid} {result : Except Errno Table} {reply : Reply}
    (h : m.onTable pid result = (reply, m')) : m.KeepsEnded m' := by
  refine keepsEnded_granted ?_ h
  intro m₁ hm₁
  cases result with
  | error e => cases hm₁
  | ok table =>
      cases hm₁
      exact m.keepsEnded_update pid fun _ ↦ rfl

theorem keepsEnded_openFor {pid : Pid} {p : Process} {path : String} {mode : OpenMode}
    {reply : Reply} (h : m.openFor pid p path mode = (reply, m')) : m.KeepsEnded m' := by
  unfold openFor at h
  split at h
  next file m₁ hopen =>
    cases h
    exact (keepsEnded_of_processes (processes_openFile hopen)).trans
      (m₁.keepsEnded_update pid fun _ ↦ rfl)
  next =>
    cases h
    exact .refl m

theorem keepsEnded_become {pid : Pid} {result : Except Errno Program} {reply : Reply}
    (h : m.become pid result = (reply, m')) : m.KeepsEnded m' := by
  cases result with
  | error e =>
      cases h
      exact .refl m
  | ok program =>
      cases h
      exact m.keepsEnded_update pid fun _ ↦ rfl

theorem keepsEnded_goOn (m : Machine) (pid : Pid) (program : Program) :
    m.KeepsEnded (m.goOn pid program) := by
  apply keepsEnded_update
  intro p
  split <;> rfl

theorem keepsEnded_told {α : Type} {reply : α → Reply} {result : Except Errno α} {answer : Reply}
    (h : m.told reply result = (answer, m')) : m.KeepsEnded m' := by
  cases result <;> cases h <;> exact .refl m

/-- No request changes how a process has ended. -/
theorem keepsEnded_answer {shell : Table} {pid : Pid} {p : Process} {request : Request}
    {reply : Reply} (h : m.answer shell pid p request = some (reply, m')) : m.KeepsEnded m' := by
  cases request with
  | openFile path mode => exact keepsEnded_openFor (Option.some.inj h)
  | close fd => exact keepsEnded_onTable (Option.some.inj h)
  | duplicate fd target => exact keepsEnded_onTable (Option.some.inj h)
  | keep fd least =>
      simp only [answer] at h
      split at h <;> cases h
      · exact m.keepsEnded_update pid fun _ ↦ rfl
      · exact .refl m
  | pipe =>
      cases h
      have hpipe : m.makePipe.2.2.processes = m.processes := rfl
      exact (keepsEnded_of_processes hpipe).trans (keepsEnded_update _ pid fun _ ↦ rfl)
  | read fd limit =>
      simp only [answer] at h
      split at h
      next hread =>
        cases h
        exact keepsEnded_read hread
      next => cases h
      next hread =>
        cases h
        exact keepsEnded_read hread
  | place fd => exact keepsEnded_told (Option.some.inj h)
  | seek fd place =>
      refine keepsEnded_granted ?_ (Option.some.inj h)
      exact fun _ hm ↦ keepsEnded_of_processes (processes_seek hm)
  | resize fd size =>
      refine keepsEnded_granted ?_ (Option.some.inj h)
      exact fun _ hm ↦ keepsEnded_of_processes (processes_resize hm)
  | factsOf fd => exact keepsEnded_told (Option.some.inj h)
  | facts path follow => exact keepsEnded_told (Option.some.inj h)
  | makeDirectory path permissions => exact keepsEnded_onTree (Option.some.inj h)
  | removeDirectory path => exact keepsEnded_onTree (Option.some.inj h)
  | removeFile path => exact keepsEnded_onTree (Option.some.inj h)
  | touch path =>
      simp only [answer] at h
      split at h
      · cases h
        exact .refl m
      · exact keepsEnded_onTree (Option.some.inj h)
  | link path name => exact keepsEnded_onTree (Option.some.inj h)
  | makeLink target name => exact keepsEnded_onTree (Option.some.inj h)
  | readLink path =>
      simp only [answer] at h
      split at h
      · split at h <;> cases h <;> exact .refl m
      · cases h
        exact .refl m
  | rename path name => exact keepsEnded_onTree (Option.some.inj h)
  | setPermissions path permissions => exact keepsEnded_onTree (Option.some.inj h)
  | changeDirectory path =>
      simp only [answer] at h
      split at h <;> cases h
      · exact m.keepsEnded_update pid fun _ ↦ rfl
      · exact .refl m
  | here =>
      simp only [answer] at h
      split at h <;> cases h <;> exact .refl m
  | list path => exact keepsEnded_told (Option.some.inj h)
  | setMask mask =>
      cases h
      exact m.keepsEnded_update pid fun _ ↦ rfl
  | execute args environment => exact keepsEnded_become (Option.some.inj h)
  | executeFile path args environment => exact keepsEnded_become (Option.some.inj h)
  | processId =>
      cases h
      exact .refl m
  | wait child =>
      simp only [answer] at h
      split at h
      · split at h
        · cases h
          exact .refl m
        · obtain ⟨status, -, hreply⟩ := Option.map_eq_some_iff.1 h
          cases hreply
          exact .refl m
      · cases h
        exact .refl m
  | waitOrSignal child =>
      simp only [answer] at h
      split at h
      · cases h
        exact .refl m
      · split at h <;> cases h
        exact .refl m
  | signal number kind =>
      simp only [answer] at h
      split at h
      · split at h <;> cases h
        · exact .refl m
        · exact m.keepsEnded_deliver _ kind
      · cases h
        exact .refl m
  | handle number d =>
      cases h
      exact m.keepsEnded_update pid fun _ ↦ rfl
  | signals =>
      cases h
      exact m.keepsEnded_update pid fun _ ↦ rfl
  | clock =>
      cases h
      exact .refl m
  | sleepUntil time =>
      simp only [answer] at h
      split at h <;> cases h
      exact .refl m

/-- What one process does leaves the others that have ended as they are. -/
theorem keepsEnded_step {shell : Table} {pid : Pid} (h : m.step shell pid = some m') :
    m.KeepsEnded m' := by
  unfold step at h
  split at h
  next => cases h
  next p hp =>
    split at h
    next => cases h
    next hgoes =>
      have hended : p.ended = none := Option.not_isSome_iff_eq_none.1 hgoes
      split at h
      next status _ =>
        cases h
        exact keepsEnded_endProcess hp hended status
      next request next _ =>
        split at h
        next => cases h
        next reply m₁ hanswer =>
          have hkeeps := keepsEnded_answer hanswer
          split at h <;> cases h
          · exact hkeeps
          · exact hkeeps
          · exact hkeeps.trans (m₁.keepsEnded_goOn pid _)
      next fd next _ =>
        cases h
        exact m.keepsEnded_goOn pid _
      next fd data next _ _ =>
        split at h
        next n m₁ hwrite =>
          cases h
          exact (keepsEnded_write hwrite).trans (m₁.keepsEnded_goOn pid _)
        next => cases h
        next m₁ hwrite =>
          cases h
          exact ((keepsEnded_write hwrite).trans (m₁.keepsEnded_deliver pid _)).trans
            (keepsEnded_goOn _ pid _)
        next e m₁ hwrite =>
          cases h
          exact (keepsEnded_write hwrite).trans (m₁.keepsEnded_goOn pid _)
      next fd limit target digest state next _ =>
        split at h
        next m₁ hread =>
          cases h
          exact (keepsEnded_read hread).trans (m₁.keepsEnded_goOn pid _)
        next bytes m₁ _ hread =>
          cases h
          exact (keepsEnded_read hread).trans (m₁.keepsEnded_goOn pid _)
        next => cases h
        next e m₁ hread =>
          cases h
          exact (keepsEnded_read hread).trans (m₁.keepsEnded_goOn pid _)
      next fd data next _ =>
        cases h
        exact m.keepsEnded_goOn pid _
      next child next _ =>
        cases h
        exact (m.keepsEnded_addProcess _).trans (keepsEnded_goOn _ pid _)

/-! ## Runs -/

theorem keepsEnded_advance (shell : Table) (pid : Pid) (moved : Bool) (m : Machine) (steps : Nat) :
    m.KeepsEnded (advance shell pid moved m steps).2 := by
  induction steps generalizing moved m with
  | zero => exact .refl m
  | succ steps ih =>
      rw [advance]
      split
      next m₁ hstep => exact (keepsEnded_step hstep).trans (ih true m₁)
      next => exact .refl m

theorem keepsEnded_sweep (m : Machine) (shell : Table) (steps : Nat) :
    m.KeepsEnded (m.sweep shell steps).2 := by
  unfold sweep
  generalize List.range m.processes.size = pids
  generalize false = moved
  induction pids generalizing moved m with
  | nil => exact .refl m
  | cons pid pids ih => exact (keepsEnded_advance shell pid moved m steps).trans (ih _ _)

theorem keepsEnded_settle (m : Machine) (shell : Table) (pid : Pid) (steps sweeps : Nat) :
    m.KeepsEnded (m.settle shell pid steps sweeps).2 := by
  induction sweeps generalizing m with
  | zero => exact .refl m
  | succ sweeps ih =>
      have hsweep := m.keepsEnded_sweep shell steps
      rw [settle]
      dsimp only
      split
      · exact hsweep
      · split
        · exact hsweep.trans (ih _)
        · split
          next time _ =>
            have hclock : (m.sweep shell steps).2.KeepsEnded
                { (m.sweep shell steps).2 with clock := time } := keepsEnded_of_processes rfl
            exact (hsweep.trans hclock).trans (ih _)
          next => exact hsweep

end Machine

namespace Scheduler

/-- While a child is waited for, the processes that have ended stay as they ended. -/
def Keeps (sched : Scheduler) : Prop :=
  ∀ (w : World) (pid : Pid), w.machine.KeepsEnded (sched.run w pid).2

theorem keeps_fair (sweeps steps : Nat) : (fair sweeps steps).Keeps :=
  fun w pid ↦ w.machine.keepsEnded_settle w.table pid steps sweeps

end Scheduler

end PipeShell

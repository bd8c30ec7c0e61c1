import PipeShell.Proofs.Awaiting
import PipeShell.Proofs.WiringAnswers

/-!
# Starting the stages of a pipeline

Of all requests only that of a process changes the shell's children.  So the
children that a pipeline adds are the processes started for its stages, and these
are the ones that its run waits for.
-/

namespace PipeShell

namespace Pipeline

theorem children_startStages (s : Wiring) (w : World) (stages : List Stage) :
    (startStages s w stages).world.children = w.children ++ (startStages s w stages).pids := by
  fun_induction startStages s w stages with
  | case1 s w => simpa using (s.prepares_release w).children
  | case2 s w stage rest e s' w' hnext =>
      have hprepares := s.prepares_next w
      rw [hnext] at hprepares
      simpa using (hprepares.trans (s'.prepares_release w')).children
  | case3 s w stage rest s' w' hnext =>
      have hprepares := s.prepares_next w
      rw [hnext] at hprepares
      simpa using (hprepares.trans (s'.prepares_release w')).children
  | case4 s w stage rest ends s' w' hnext e hstart =>
      have hprepares := s.prepares_next w
      rw [hnext] at hprepares
      have hrelease := (ends.prepares_release w').trans (s'.prepares_release _)
      simpa using (hprepares.trans hrelease).children
  | case5 s w stage rest ends s' w' hnext pid w'' hstart started ih =>
      have hprepares := s.prepares_next w
      rw [hnext] at hprepares
      obtain ⟨rfl, hstarts⟩ := World.starts_of_start hstart
      have hchildren : w'.children = w.children := hprepares.children
      dsimp only [started]
      rw [ih, (ends.prepares_release w'').children, hstarts.children, hchildren]
      simp

theorem length_startStages_le (s : Wiring) (w : World) (stages : List Stage) :
    (startStages s w stages).pids.length ≤ stages.length := by
  fun_induction startStages s w stages with
  | case1 | case2 | case3 | case4 => exact Nat.zero_le _
  | case5 s w stage rest ends s' w' hnext pid w'' hstart started ih =>
      exact Nat.succ_le_succ ih

theorem children_start (p : Pipeline) (w : World) :
    (p.start w).world.children = w.children ++ (p.start w).pids := by
  unfold start
  split
  · simp
  · exact children_startStages _ w _

theorem length_start_le (p : Pipeline) (w : World) :
    (p.start w).pids.length ≤ p.stages.toList.length := by
  unfold start
  split
  · simp
  · exact length_startStages_le _ w _

/-- A run waits for all that it has started, and for nothing else. -/
theorem waited_execute_start (sched : Scheduler) (p : Pipeline) (d : Diagnostics) (w : World) :
    (p.start w).world.Waited (p.start w).pids w.children (p.execute sched d w).2.2 :=
  waited_execute (p.length_start_le w) (.of_eq (p.children_start w)) d

end Pipeline

end PipeShell

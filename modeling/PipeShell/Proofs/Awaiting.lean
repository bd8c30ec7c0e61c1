import PipeShell.Execution

/-!
# Waiting and telling

All processes that a run has started are waited for, each once and in order, and
nothing else is requested meanwhile; behind the run the shell has the children that
it had before.  What is told is a function of what the waiting gives, and with room
for all of it the telling changes nothing in the world.
-/

namespace PipeShell

/-- Writing a diagnostic asks for nothing that is noted. -/
theorem Diagnostics.own_write (d : Diagnostics) (w : World) (text : String) :
    (d.write w text).2.2.table = w.table ∧ (d.write w text).2.2.children = w.children ∧
      (d.write w text).2.2.events = w.events := by
  unfold write
  cases d with
  | kept bytes room => cases room <;> exact ⟨rfl, rfl, rfl⟩
  | standardError => exact ⟨rfl, rfl, rfl⟩

namespace World

variable {sched : Scheduler}

/-- Processes have been waited for, each once and in order; the shell's other children
are left, and so is what it holds. -/
structure Waited (w : World) (pids others : List Pid) (w' : World) : Prop where
  table : w'.table = w.table
  children : w'.children.Perm others
  events : w'.events = w.events ++ (pids.map Event.awaited).toArray

theorem waited_nil {w : World} {others : List Pid} (h : w.children.Perm (others ++ [])) :
    Waited w [] others w :=
  ⟨rfl, by simpa using h, by simp⟩

theorem children_await_perm {w : World} {pid : Pid} {rest others : List Pid}
    (h : w.children.Perm (others ++ pid :: rest)) :
    (w.await sched pid).2.children.Perm (others ++ rest) := by
  have hfront : w.children.Perm (pid :: (others ++ rest)) := h.trans List.perm_middle
  have hmem : pid ∈ w.children := hfront.mem_iff.2 (by simp)
  unfold await
  rw [if_pos hmem]
  simpa [note] using hfront.erase pid

/-- Waiting for one child, then for the rest; in between a diagnostic may be written. -/
theorem waited_cons {w w₁ w' : World} {pid : Pid} {rest others : List Pid}
    (h : w.children.Perm (others ++ pid :: rest))
    (htable : w₁.table = (w.await sched pid).2.table)
    (hevents : w₁.events = (w.await sched pid).2.events)
    (hrest : Waited w₁ rest others w') : Waited w (pid :: rest) others w' := by
  have hmem : pid ∈ w.children := h.mem_iff.2 (by simp)
  refine ⟨?_, hrest.children, ?_⟩
  · rw [hrest.table, htable]
    unfold await
    split <;> rfl
  · rw [hrest.events, hevents]
    unfold await
    rw [if_pos hmem]
    simp [note]

/-- Waits for processes in order: what each waiting gives, and the world then. -/
def awaitAll (sched : Scheduler) (w : World) : List Pid → List (Except Errno Status) × World
  | [] => ([], w)
  | pid :: rest =>
      let (result, w) := w.await sched pid
      let (results, w) := awaitAll sched w rest
      (result :: results, w)

@[simp] theorem awaitAll_nil (w : World) : w.awaitAll sched [] = ([], w) := rfl

@[simp] theorem awaitAll_cons (w : World) (pid : Pid) (rest : List Pid) :
    w.awaitAll sched (pid :: rest) =
      ((w.await sched pid).1 :: ((w.await sched pid).2.awaitAll sched rest).1,
        ((w.await sched pid).2.awaitAll sched rest).2) := rfl

end World

namespace Pipeline

variable {sched : Scheduler}

theorem execute_of_none {p : Pipeline} {w : World} (h : (p.start w).failure = none)
    (d : Diagnostics) :
    p.execute sched d w =
      collect sched 0 .ok d (p.start w).world (p.stages.toList.zip (p.start w).pids) := by
  simp only [execute, h]

theorem execute_of_some {p : Pipeline} {w : World} {e : ExecError}
    (h : (p.start w).failure = some e) (d : Diagnostics) :
    p.execute sched d w = abandon sched e d (p.start w).world (p.start w).pids := by
  simp only [execute, h]

/-! ## What is waited for -/

theorem waited_reap (sched : Scheduler) {w : World} {pids others : List Pid}
    (h : w.children.Perm (others ++ pids)) : w.Waited pids others (reap sched w pids) := by
  induction pids generalizing w with
  | nil => exact World.waited_nil h
  | cons pid rest ih =>
      exact World.waited_cons h rfl rfl (ih (World.children_await_perm h))

theorem waited_collect {stages : List Stage} {pids others : List Pid}
    (hlength : pids.length ≤ stages.length) (index : Nat) (outcome : ExecOutcome)
    (d : Diagnostics) {w : World} (h : w.children.Perm (others ++ pids)) :
    w.Waited pids others (collect sched index outcome d w (stages.zip pids)).2.2 := by
  -- The diagnostics may change the machine from one stage to the next, but not the shell.
  induction stages generalizing pids index outcome d w with
  | nil =>
      obtain rfl : pids = [] := by simpa using hlength
      exact World.waited_nil h
  | cons stage stages ih =>
      cases pids with
      | nil => exact World.waited_nil h
      | cons pid rest =>
          have hlength : rest.length ≤ stages.length := by simpa using hlength
          have hrest : (w.await sched pid).2.children.Perm (others ++ rest) :=
            World.children_await_perm h
          rw [List.zip_cons_cons, collect]
          dsimp only
          split
          next => exact World.waited_cons h rfl rfl (ih hlength _ _ _ hrest)
          next text htext =>
            obtain ⟨htable, hchildren, hevents⟩ := d.own_write (w.await sched pid).2 text
            exact World.waited_cons h htable hevents
              (ih hlength _ _ _ (by rwa [hchildren]))

/-- A run waits for what it has started, whether or not all could be started. -/
theorem waited_execute {p : Pipeline} {w : World} {others : List Pid}
    (hlength : (p.start w).pids.length ≤ p.stages.toList.length)
    (h : (p.start w).world.children.Perm (others ++ (p.start w).pids)) (d : Diagnostics) :
    (p.start w).world.Waited (p.start w).pids others (p.execute sched d w).2.2 := by
  cases hfailure : (p.start w).failure with
  | none =>
      rw [execute_of_none hfailure]
      exact waited_collect hlength 0 .ok d h
  | some e =>
      rw [execute_of_some hfailure]
      obtain ⟨htable, hchildren, hevents⟩ :=
        d.own_write (p.start w).world s!"exec error: {e.message}\n"
      obtain ⟨htable', hchildren', hevents'⟩ :=
        waited_reap sched (hchildren ▸ h)
      exact ⟨htable'.trans htable, hchildren', hevents ▸ hevents'⟩

/-! ## What is told -/

/-- What is told of stages, the first of them having the given index, by what waiting
for them gave. -/
def reports (index : Nat) : List (Stage × Except Errno Status) → List String
  | [] => []
  | (stage, result) :: rest =>
      (report? stage.program index result).toList ++ reports (index + 1) rest

/-- The bytes of texts one after another. -/
def told (texts : List String) : Bytes :=
  texts.flatMap encode

theorem collect_kept (index : Nat) (outcome : ExecOutcome) (b : Bytes) (w : World)
    (stages : List Stage) (pids : List Pid) :
    collect sched index outcome (.kept b none) w (stages.zip pids) =
      let waited := w.awaitAll sched ((stages.zip pids).map Prod.snd)
      let texts := reports index (stages.zip waited.1)
      (if texts = [] then outcome else .error, .kept (b ++ told texts) none, waited.2) := by
  induction stages generalizing index outcome b w pids with
  | nil => simp [collect, reports, told]
  | cons stage rest ih =>
      cases pids with
      | nil => simp [collect, reports, told]
      | cons pid pids =>
          rw [List.zip_cons_cons, collect]
          cases hreport : report? stage.program index (w.await sched pid).1 with
          | none => simp [hreport, ih, reports]
          | some text => simp [hreport, ih, reports, told, Diagnostics.write]

/-- What stands in front of the diagnostics does not matter to a run, and stays there. -/
theorem execute_kept (p : Pipeline) (b : Bytes) (w : World) :
    p.execute sched (.kept b none) w =
      ((p.execute sched .unlimited w).1,
        .kept (b ++ (p.execute sched .unlimited w).2.1.bytes) none,
        (p.execute sched .unlimited w).2.2) := by
  cases hfailure : (p.start w).failure with
  | none =>
      simp only [execute_of_none hfailure, Diagnostics.unlimited, collect_kept, List.nil_append,
        Diagnostics.bytes]
  | some e =>
      simp only [execute_of_some hfailure, Diagnostics.unlimited, abandon, Diagnostics.write,
        List.nil_append, Diagnostics.bytes]

end Pipeline

end PipeShell

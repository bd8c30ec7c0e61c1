import PipeShell.Proofs.Requests
import PipeShell.Wiring

/-!
# What a wiring answers

A call of a wiring supplies one more stage, refuses it, or finds that all stages have been
handed out.  The three cases are told apart here once; what each of them needs and leaves
is all that later arguments know of a call.  In none of them is a process started or waited
for.
-/

namespace PipeShell

/-- How a redirection opens its file. -/
def Purpose.mode : Purpose → OpenMode
  | .reading => .read
  | .writing => .write 0o644

theorem Machine.opens_mode {m m' : Machine} {t : Table} {mask : Nat} {cwd : NodeId}
    {path : String} {purpose : Purpose} {file : FileId}
    (h : m.openFile t mask cwd path purpose.mode = .ok (file, m')) : m.Opens file m' := by
  cases purpose with
  | reading => exact opens_read h
  | writing => exact opens_write h

namespace Wiring

variable {s s' : Wiring} {w w' : World} {ends : StageEnds} {e : ExecError}

/-- The wiring hands out the descriptors of one more stage. -/
inductive Supplies (s : Wiring) (w : World) : StageEnds → Wiring → World → Prop where
  | last {input output : Endpoint} {w₁ w' : World} (hinput : s.nextInput w = .ok (input, w₁))
      (hlast : s.index + 1 = s.count)
      (houtput : openEnd s.output .writing w₁ = .ok (output, w')) :
      Supplies s w ⟨input, output, none⟩ { s with index := s.index + 1, carried := none } w'
  | piped {input : Endpoint} {w₁ : World} (hinput : s.nextInput w = .ok (input, w₁))
      (hmore : s.index + 1 ≠ s.count) (hpipe : w₁.pipe = .ok w₁.makePipe) :
      Supplies s w ⟨input, .descriptor w₁.makePipe.2.1, some w₁.makePipe.1⟩
        { s with index := s.index + 1, carried := some w₁.makePipe.1 } w₁.makePipe.2.2

/-- The wiring refuses one more stage.  What is carried over gets lost when the output is at
fault, be it a file or a pipe. -/
inductive Refuses (s : Wiring) (w : World) : ExecError → Wiring → World → Prop where
  | input {e : ExecError} (hinput : s.nextInput w = .error e) : Refuses s w e s w
  | output {input : Endpoint} {w₁ : World} {e : ExecError}
      (hinput : s.nextInput w = .ok (input, w₁)) (hlast : s.index + 1 = s.count)
      (houtput : openEnd s.output .writing w₁ = .error e) :
      Refuses s w e { s with carried := none } (input.release w₁)
  | pipe {input : Endpoint} {w₁ : World} {e : Errno}
      (hinput : s.nextInput w = .ok (input, w₁)) (hmore : s.index + 1 ≠ s.count)
      (hpipe : w₁.pipe = .error e) :
      Refuses s w (.pipe e) { s with carried := none } (input.release w₁)

/-- The three answers of a wiring. -/
theorem next_answers (s : Wiring) (w : World) :
    (s.index = s.count ∧ s.next w = (.ok none, s, w)) ∨
      (s.index ≠ s.count ∧ ∃ e s' w', s.next w = (.error e, s', w') ∧ s.Refuses w e s' w') ∨
      s.index ≠ s.count ∧
        ∃ ends s' w', s.next w = (.ok (some ends), s', w') ∧ s.Supplies w ends s' w' := by
  unfold next
  split
  next hend => exact .inl ⟨hend, rfl⟩
  next hindex =>
    right
    cases hinput : s.nextInput w with
    | error e => exact .inl ⟨hindex, e, s, w, rfl, .input hinput⟩
    | ok taken =>
        obtain ⟨input, w₁⟩ := taken
        dsimp only
        split
        next hlast =>
          cases houtput : openEnd s.output .writing w₁ with
          | error e => exact .inl ⟨hindex, e, _, _, rfl, .output hinput hlast houtput⟩
          | ok opened => exact .inr ⟨hindex, _, _, _, rfl, .last hinput hlast houtput⟩
        next hmore =>
          cases hpipe : w₁.pipe with
          | error e => exact .inl ⟨hindex, _, _, _, rfl, .pipe hinput hmore hpipe⟩
          | ok made =>
              have hmade : made = w₁.makePipe := World.pipe_eq_ok hpipe
              subst hmade
              exact .inr ⟨hindex, _, _, _, rfl, .piped hinput hmore hpipe⟩

theorem supplies_of_next (h : s.next w = (.ok (some ends), s', w')) :
    s.index ≠ s.count ∧ s.Supplies w ends s' w' := by
  rcases s.next_answers w with ⟨-, hnext⟩ | ⟨-, e, s₁, w₁, hnext, -⟩ |
    ⟨hindex, ends₁, s₁, w₁, hnext, hsupplies⟩
  · exact nomatch hnext.symm.trans h
  · exact nomatch hnext.symm.trans h
  · cases hnext.symm.trans h
    exact ⟨hindex, hsupplies⟩

theorem refuses_of_next (h : s.next w = (.error e, s', w')) :
    s.index ≠ s.count ∧ s.Refuses w e s' w' := by
  rcases s.next_answers w with ⟨-, hnext⟩ | ⟨hindex, e₁, s₁, w₁, hnext, hrefuses⟩ |
    ⟨-, ends, s₁, w₁, hnext, -⟩
  · exact nomatch hnext.symm.trans h
  · cases hnext.symm.trans h
    exact ⟨hindex, hrefuses⟩
  · exact nomatch hnext.symm.trans h

theorem index_of_next_none (h : s.next w = (.ok none, s', w')) :
    s.index = s.count ∧ s' = s ∧ w' = w := by
  rcases s.next_answers w with ⟨hindex, hnext⟩ | ⟨-, e, s₁, w₁, hnext, -⟩ |
    ⟨-, ends, s₁, w₁, hnext, -⟩
  · cases hnext.symm.trans h
    exact ⟨hindex, rfl, rfl⟩
  · exact nomatch hnext.symm.trans h
  · exact nomatch hnext.symm.trans h

end Wiring

/-! ## Preparing a stage -/

namespace World

/-- More has been requested, and nothing of it is to wait for a child. -/
def Unwaited (w w' : World) : Prop :=
  ∃ requests : List Event, w'.events.toList = w.events.toList ++ requests ∧
    ∀ pid, .awaited pid ∉ requests

variable {w w' w'' : World}

theorem Unwaited.of_events (h : w'.events = w.events) : w.Unwaited w' :=
  ⟨[], by rw [h, List.append_nil], fun _ ↦ List.not_mem_nil⟩

theorem Unwaited.of_push {e : Event} (h : w'.events = w.events.push e)
    (he : ∀ pid, e ≠ .awaited pid) : w.Unwaited w' := by
  refine ⟨[e], by rw [h, Array.toList_push], ?_⟩
  intro pid hmem
  exact he pid (List.mem_singleton.1 hmem).symm

theorem Unwaited.trans (h : w.Unwaited w') (h' : w'.Unwaited w'') : w.Unwaited w'' := by
  obtain ⟨requests, hevents, hnone⟩ := h
  obtain ⟨requests', hevents', hnone'⟩ := h'
  refine ⟨requests ++ requests', ?_, ?_⟩
  · rw [hevents', hevents, List.append_assoc]
  · intro pid hmem
    rcases List.mem_append.1 hmem with hmem | hmem
    · exact hnone pid hmem
    · exact hnone' pid hmem

/-- Descriptors may have been opened and closed; no process has been started, and none
has been waited for. -/
structure Prepares (w w' : World) : Prop where
  processes : w'.machine.processes = w.machine.processes
  children : w'.children = w.children
  shortage : w'.shortage = w.shortage
  unwaited : w.Unwaited w'

theorem Prepares.refl (w : World) : w.Prepares w :=
  ⟨rfl, rfl, rfl, .of_events rfl⟩

theorem Prepares.trans (h : w.Prepares w') (h' : w'.Prepares w'') : w.Prepares w'' :=
  ⟨h'.processes.trans h.processes, h'.children.trans h.children,
    h'.shortage.trans h.shortage, h.unwaited.trans h'.unwaited⟩

theorem prepares_close (w : World) (fd : Descriptor) : w.Prepares (w.close fd) := by
  unfold close
  split
  · exact ⟨rfl, rfl, rfl, .of_push rfl nofun⟩
  · exact .refl w

theorem prepares_openFile {path : String} {purpose : Purpose} {fd : Descriptor}
    (h : w.openFile path purpose.mode = .ok (fd, w')) : w.Prepares w' := by
  obtain ⟨file, machine, hmachine, -, rfl⟩ := openFile_eq_ok h
  exact ⟨(Machine.opens_mode hmachine).processes, rfl, rfl, .of_push rfl nofun⟩

theorem prepares_makePipe (w : World) : w.Prepares w.makePipe.2.2 :=
  ⟨rfl, rfl, rfl, .of_push rfl nofun⟩

end World

theorem Endpoint.prepares_release (e : Endpoint) (w : World) : w.Prepares (e.release w) := by
  cases e with
  | inherited => exact .refl w
  | descriptor fd => exact w.prepares_close fd

theorem StageEnds.prepares_release (ends : StageEnds) (w : World) :
    w.Prepares (ends.release w) :=
  (ends.input.prepares_release w).trans (ends.output.prepares_release _)

namespace Wiring

variable {path : Option String} {purpose : Purpose} {w w' : World} {given : Endpoint}
  {s s' : Wiring} {ends : StageEnds} {cause : ExecError}

theorem prepares_release (s : Wiring) (w : World) : w.Prepares (s.release w) := by
  unfold release
  split
  · exact w.prepares_close _
  · exact .refl w

theorem openEnd_eq_ok {path : String} (h : openEnd (some path) purpose w = .ok (given, w')) :
    ∃ fd, w.openFile path purpose.mode = .ok (fd, w') ∧ given = .descriptor fd := by
  cases purpose with
  | _ =>
      simp only [openEnd] at h
      split at h
      next hopen =>
        cases h
        exact ⟨_, hopen, rfl⟩
      next => cases h

theorem prepares_openEnd (h : openEnd path purpose w = .ok (given, w')) : w.Prepares w' := by
  cases path with
  | none =>
      cases h
      exact .refl w
  | some path =>
      obtain ⟨fd, hopen, -⟩ := openEnd_eq_ok h
      exact World.prepares_openFile hopen

theorem openEnd_eq_error (h : openEnd path purpose w = .error cause) :
    ∃ path purpose cause', cause = .openFile path purpose cause' := by
  cases path with
  | none => cases h
  | some path =>
      simp only [openEnd] at h
      split at h
      next => cases h
      next cause' _ =>
        cases h
        exact ⟨path, purpose, cause', rfl⟩

theorem prepares_nextInput (h : s.nextInput w = .ok (given, w')) : w.Prepares w' := by
  unfold nextInput at h
  split at h
  · cases h
    exact .refl w
  · exact prepares_openEnd h

theorem nextInput_eq_error (h : s.nextInput w = .error cause) :
    ∃ path purpose cause', cause = .openFile path purpose cause' := by
  unfold nextInput at h
  split at h
  · cases h
  · exact openEnd_eq_error h

theorem Supplies.prepares (h : s.Supplies w ends s' w') : w.Prepares w' := by
  cases h with
  | last hinput _ houtput => exact (prepares_nextInput hinput).trans (prepares_openEnd houtput)
  | piped hinput _ _ => exact (prepares_nextInput hinput).trans (World.prepares_makePipe _)

theorem Refuses.prepares (h : s.Refuses w cause s' w') : w.Prepares w' := by
  cases h with
  | input _ => exact .refl w
  | output hinput _ _ | pipe hinput _ _ =>
      exact (prepares_nextInput hinput).trans (Endpoint.prepares_release _ _)

theorem prepares_next (s : Wiring) (w : World) : w.Prepares (s.next w).2.2 := by
  rcases s.next_answers w with ⟨-, hnext⟩ | ⟨-, e, s', w', hnext, hrefuses⟩ |
    ⟨-, ends, s', w', hnext, hsupplies⟩ <;> rw [hnext]
  · exact .refl w
  · exact hrefuses.prepares
  · exact hsupplies.prepares

end Wiring

end PipeShell

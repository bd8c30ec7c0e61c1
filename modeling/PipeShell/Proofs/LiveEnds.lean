import PipeShell.Proofs.Complaints
import PipeShell.Proofs.Handouts

/-!
# Live ends

A call for a stage can be refused, for want of a file or of a pipe, and be made again.  Then
the numbers of the open files no longer tell for whom they were opened.  Still, what has not
been given up is open under a number that nobody else has, the write end of a pipe is with
the stage for which the pipe was made, and what the wiring keeps is the read end of the
newest pipe.
-/

namespace PipeShell

/-! ## What stays under a number -/

/-- What is on loan takes nothing from what was there. -/
theorem Table.Lends.get?_of_get? {t₀ t : Table} {held : List (Descriptor × Holding)}
    (h : t₀.Lends held t) {fd : Descriptor} {x : Holding} (hget : t₀.get? fd = some x) :
    t.get? fd = some x := by
  obtain ⟨rfl, hfresh, -⟩ := h
  induction held with
  | nil => exact hget
  | cons entry rest ih =>
      have hne : entry.1 ≠ fd := by
        rintro rfl
        rw [hfresh entry List.mem_cons_self] at hget
        cases hget
      rw [List.cons_append, get?_cons, if_neg hne]
      exact ih fun other hother ↦ hfresh other (List.mem_cons_of_mem _ hother)

theorem World.get?_close_of_ne (w : World) {fd fd' : Descriptor} (hne : fd' ≠ fd) :
    (w.close fd).table.get? fd' = w.table.get? fd' := by
  unfold close Table.close
  split
  next table hclose =>
    split at hclose
    · cases hclose
      exact (Table.get?_erase w.table fd fd').trans (if_neg hne)
    · cases hclose
  next => rfl

theorem Endpoint.get?_release_of_ne (e : Endpoint) (w : World) {fd : Descriptor}
    (hne : e.fd? ≠ some fd) : (e.release w).table.get? fd = w.table.get? fd := by
  cases e with
  | inherited => rfl
  | descriptor fd' => exact w.get?_close_of_ne fun heq ↦ hne (congrArg some heq.symm)

theorem Endpoint.Leads.numbers {e : Endpoint} {file? : Option FileId}
    {held : List (Descriptor × Holding)} (h : e.Leads file? held) :
    held.map Prod.fst = e.fd?.toList := by
  cases h <;> rfl

theorem StageEnds.get?_release_of_ne (ends : StageEnds) (w : World) {fd : Descriptor}
    (hinput : ends.input.fd? ≠ some fd) (houtput : ends.output.fd? ≠ some fd) :
    (ends.release w).table.get? fd = w.table.get? fd :=
  (ends.output.get?_release_of_ne _ houtput).trans (ends.input.get?_release_of_ne w hinput)

theorem Wiring.get?_release_of_ne (s : Wiring) (w : World) {fd : Descriptor}
    (hne : s.carried ≠ some fd) : (s.release w).table.get? fd = w.table.get? fd := by
  unfold release
  split
  next fd' hcarried =>
    apply w.get?_close_of_ne
    rintro rfl
    exact hne hcarried
  next => rfl

theorem Machine.SameFiles.grows {m m' : Machine} (h : m.SameFiles m') : m.Grows m' :=
  ⟨h.processes, Nat.le_of_eq h.opened.symm, fun pipe side file _ ↦ h.isEnd pipe side file⟩

/-- An end of a pipe stays where it is when more files are opened. -/
theorem Machine.Grows.fileAt?_eq_pipe {m m' : Machine} (h : m.Grows m') {t t' : Table}
    {fd : Descriptor} {pipe : PipeId} {side : PipeEnd} (hget : t'.get? fd = t.get? fd)
    (hfile : m.fileAt? t fd = some (.pipe pipe side)) :
    m'.fileAt? t' fd = some (.pipe pipe side) := by
  obtain ⟨x, hx, hend⟩ := fileAt?_eq_pipe_iff.1 hfile
  have hlt : x.file < m.opened.size :=
    (Array.getElem?_eq_some_iff.1 (isEnd_eq_true_iff.1 hend)).1
  exact fileAt?_eq_pipe_iff.2 ⟨x, hget.trans hx, (h.isEnd _ _ _ hlt).trans hend⟩

/-! ## What a call takes -/

namespace Wiring

variable {s s' : Wiring} {w w' : World} {e : Endpoint} {ends : StageEnds} {cause : ExecError}

/-- The input of a stage has been kept for it, or it is opened under a new number. -/
structure Takes (s : Wiring) (w : World) (e : Endpoint) (new : List (Descriptor × Holding))
    (w' : World) : Prop where
  borrows : w.Borrows new w'
  numbers : new.map Prod.fst = if s.carried.isSome then [] else e.fd?.toList
  input : ∀ fd, s.carried = some fd → e = .descriptor fd
  grows : w.machine.Grows w'.machine
  pipes : w'.machine.pipes.size = w.machine.pipes.size

theorem exists_takes (h : s.nextInput w = .ok (e, w')) : ∃ new, s.Takes w e new w' := by
  unfold nextInput at h
  split at h
  next fd hcarried =>
    cases h
    refine ⟨[], .refl w, ?_, fun fd' hfd' ↦ ?_, .refl _, rfl⟩
    · rw [hcarried]
      rfl
    · rw [Option.some.inj (hcarried.symm.trans hfd')]
  next hcarried =>
    obtain ⟨new, hleads, hborrows, hgrows, -, hpipes⟩ := exists_endOpened (.refl w) h
    rw [List.append_nil] at hborrows
    refine ⟨new, hborrows, ?_, fun fd hfd ↦ ?_, hgrows, hpipes⟩
    · rw [hcarried]
      exact hleads.numbers
    · exact nomatch hcarried.symm.trans hfd

/-- The numbers that are new with a stage. -/
def numbers (s : Wiring) (ends : StageEnds) : List Descriptor :=
  ends.output.fd?.toList ++ (ends.stray.toList ++
    if s.carried.isSome then [] else ends.input.fd?.toList)

/-- A stage is given its two ends, and unless it is the last one they include the write end
of a new pipe. -/
structure Gives (s : Wiring) (w : World) (ends : StageEnds) (held : List (Descriptor × Holding))
    (w' : World) : Prop where
  borrows : w.Borrows held w'
  numbers : held.map Prod.fst = s.numbers ends
  input : ∀ fd, s.carried = some fd → ends.input = .descriptor fd
  grows : w.machine.Grows w'.machine
  last : s.index + 1 = s.count → ends.stray = none ∧
    w'.machine.pipes.size = w.machine.pipes.size
  piped : s.index + 1 ≠ s.count → w'.machine.pipes.size = w.machine.pipes.size + 1 ∧
    (∀ fd, ends.stray = some fd →
      w'.machine.fileAt? w'.table fd = some (.pipe w.machine.pipes.size .reader)) ∧
    ∀ fd, ends.output.fd? = some fd →
      w'.machine.fileAt? w'.table fd = some (.pipe w.machine.pipes.size .writer)

namespace Gives

variable {held : List (Descriptor × Holding)} {fd : Descriptor}

theorem nodup (h : s.Gives w ends held w') : (s.numbers ends).Nodup :=
  h.numbers ▸ h.borrows.lends.nodup

theorem get?_eq_none (h : s.Gives w ends held w') (hfd : fd ∈ s.numbers ends) :
    w.table.get? fd = none := by
  rw [← h.numbers] at hfd
  obtain ⟨entry, hentry, rfl⟩ := List.mem_map.1 hfd
  exact h.borrows.lends.fresh entry hentry

theorem isSome (h : s.Gives w ends held w') (hfd : fd ∈ s.numbers ends) :
    (w'.table.get? fd).isSome := by
  rw [← h.numbers] at hfd
  obtain ⟨entry, hentry, rfl⟩ := List.mem_map.1 hfd
  rw [h.borrows.lends.get? hentry]
  rfl

theorem get?_of_isSome (h : s.Gives w ends held w') (hopen : (w.table.get? fd).isSome) :
    w'.table.get? fd = w.table.get? fd := by
  obtain ⟨x, hx⟩ := Option.isSome_iff_exists.1 hopen
  rw [hx, h.borrows.lends.get?_of_get? hx]

end Gives

theorem Supplies.exists_gives (h : s.Supplies w ends s' w') : ∃ held, s.Gives w ends held w' := by
  cases h with
  | @last input output w₁ _ hinput hlast houtput =>
      obtain ⟨new, htakes⟩ := exists_takes hinput
      obtain ⟨outputHeld, hleads, hborrows, hgrows, -, hpipes⟩ :=
        exists_endOpened htakes.borrows houtput
      refine ⟨outputHeld ++ new, hborrows, ?_, htakes.input, htakes.grows.trans hgrows,
        fun _ ↦ ⟨rfl, hpipes.trans htakes.pipes⟩, fun hmore ↦ absurd hlast hmore⟩
      rw [List.map_append, hleads.numbers, htakes.numbers]
      rfl
  | @piped input w₁ hinput hmore _ =>
      obtain ⟨new, htakes⟩ := exists_takes hinput
      have hborrows := htakes.borrows.pipe
      have hwriter := hborrows.lends.get? List.mem_cons_self
      have hreader := hborrows.lends.get? (List.mem_cons_of_mem _ List.mem_cons_self)
      refine ⟨_, hborrows, ?_, htakes.input, htakes.grows.trans w₁.machine.grows_makePipe,
        fun hlast ↦ absurd hlast hmore, fun _ ↦ ⟨?_, ?_, ?_⟩⟩
      · rw [List.map_cons, List.map_cons, htakes.numbers]
        rfl
      · rw [← htakes.pipes]
        exact w₁.machine.size_pipes_makePipe
      · intro fd hfd
        obtain rfl := Option.some.inj hfd
        rw [← htakes.pipes]
        exact Machine.fileAt?_eq_pipe_iff.2 ⟨_, hreader, w₁.machine.isEnd_makePipe_reader⟩
      · intro fd hfd
        obtain rfl := Option.some.inj hfd
        rw [← htakes.pipes]
        exact Machine.fileAt?_eq_pipe_iff.2 ⟨_, hwriter, w₁.machine.isEnd_makePipe_writer⟩

theorem Supplies.wiring_eq (h : s.Supplies w ends s' w') :
    s' = { s with index := s.index + 1, carried := ends.stray } := by
  cases h <;> rfl

/-! ## What a refusal takes -/

theorem carried_of_nextInput_error (h : s.nextInput w = .error cause) : s.carried = none := by
  cases hcarried : s.carried with
  | none => rfl
  | some fd =>
      rw [nextInput, hcarried] at h
      cases h

theorem table_release_of_openEnd {path : Option String} {purpose : Purpose} {given : Endpoint}
    (h : openEnd path purpose w = .ok (given, w')) : (given.release w').table = w.table := by
  cases path with
  | none =>
      cases h
      rfl
  | some path =>
      obtain ⟨fd, hopen, rfl⟩ := openEnd_eq_ok h
      obtain ⟨file, -, hborrows⟩ := (World.Borrows.refl w).openFile hopen
      have hclosed : w.Borrows _ (w'.close fd) := hborrows.close List.mem_cons_self
      rw [List.filter_cons_of_neg (by simp)] at hclosed
      exact hclosed.lends.eq

/-- An input that is given up again is what was carried over, or it was opened. -/
theorem table_release_of_nextInput (h : s.nextInput w = .ok (e, w')) :
    (e.release w').table = (s.release w).table := by
  unfold nextInput at h
  unfold release
  split at h
  next =>
    cases h
    rfl
  next => exact table_release_of_openEnd h

namespace Refuses

theorem wiring_eq (h : s.Refuses w cause s' w') : s' = { s with carried := none } := by
  cases h with
  | input hinput =>
      have hcarried := carried_of_nextInput_error hinput
      rw [← hcarried]
  | output _ _ _ => rfl
  | pipe _ _ _ => rfl

/-- The shell is left with the descriptors that it had, apart from what was carried. -/
theorem table_eq (h : s.Refuses w cause s' w') : w'.table = (s.release w).table := by
  cases h with
  | input hinput => rw [release, carried_of_nextInput_error hinput]
  | output hinput _ _ => exact table_release_of_nextInput hinput
  | pipe hinput _ _ => exact table_release_of_nextInput hinput

/-- When there is something to lose, only the output can be at fault: the file of the last
stage, or the pipe of another one. -/
theorem of_carried (h : s.Refuses w cause s' w') (hcarried : s.carried ≠ none) :
    s.index + 1 = s.count ∧ s.output ≠ none ∨
      s.index + 1 ≠ s.count ∧ ∃ e, cause = .pipe e := by
  cases h with
  | input hinput => exact absurd (carried_of_nextInput_error hinput) hcarried
  | output hinput hlast houtput =>
      refine .inl ⟨hlast, fun hnone ↦ ?_⟩
      rw [hnone] at houtput
      cases houtput
  | pipe hinput hmore hpipe => exact .inr ⟨hmore, _, rfl⟩

/-- A refusal opens files and makes no pipe. -/
theorem grows (h : s.Refuses w cause s' w') :
    w.machine.Grows w'.machine ∧ w'.machine.pipes.size = w.machine.pipes.size := by
  cases h with
  | input _ => exact ⟨.refl _, rfl⟩
  | output hinput _ _ | pipe hinput _ _ =>
      obtain ⟨new, htakes⟩ := exists_takes hinput
      rw [Endpoint.machine_release]
      exact ⟨htakes.grows, htakes.pipes⟩

end Refuses

end Wiring

/-! ## New owners -/

/-- Who has the descriptor of an owner behind a call that obtains a stage: what the wiring
had kept is the input of that stage. -/
def Handout.handOn (s : Handout) : Owner → Owner
  | .wiring => .input s.got.length
  | o => o

/-- An owner that a call gives a new number. -/
inductive Handout.Gets (s : Handout) (ends : StageEnds) (fd : Descriptor) : Owner → Prop where
  | output (h : ends.output.fd? = some fd) : Gets s ends fd (.output s.got.length)
  | stray (h : ends.stray = some fd) : Gets s ends fd .wiring
  | input (hcarried : s.wiring.carried = none) (h : ends.input.fd? = some fd) :
      Gets s ends fd (.input s.got.length)

theorem Handout.Gets.mem_numbers {s : Handout} {ends : StageEnds} {fd : Descriptor} {o : Owner}
    (h : s.Gets ends fd o) : fd ∈ s.wiring.numbers ends := by
  cases h with
  | output h => simp [Wiring.numbers, h]
  | stray h => simp [Wiring.numbers, h]
  | input hcarried h => simp [Wiring.numbers, hcarried, h]

/-- The new numbers are different, so each has one owner. -/
theorem Handout.Gets.unique {s : Handout} {ends : StageEnds} {fd : Descriptor} {o o' : Owner}
    (hnodup : (s.wiring.numbers ends).Nodup) (h : s.Gets ends fd o)
    (h' : s.Gets ends fd o') : o = o' := by
  unfold Wiring.numbers at hnodup
  obtain ⟨-, hnodup, houtput⟩ := List.nodup_append.1 hnodup
  obtain ⟨-, -, hstray⟩ := List.nodup_append.1 hnodup
  cases h with
  | output h =>
      cases h' with
      | output _ => rfl
      | stray h' => exact absurd rfl (houtput fd (by simp [h]) fd (by simp [h']))
      | input hcarried h' =>
          exact absurd rfl (houtput fd (by simp [h]) fd (by simp [hcarried, h']))
  | stray h =>
      cases h' with
      | output h' => exact absurd rfl (houtput fd (by simp [h']) fd (by simp [h]))
      | stray _ => rfl
      | input hcarried h' =>
          exact absurd rfl (hstray fd (by simp [h]) fd (by simp [hcarried, h']))
  | input hcarried h =>
      cases h' with
      | output h' =>
          exact absurd rfl (houtput fd (by simp [h']) fd (by simp [hcarried, h]))
      | stray h' => exact absurd rfl (hstray fd (by simp [h']) fd (by simp [hcarried, h]))
      | input _ _ => rfl

/-! ## Live ends -/

/-- What is live is open and has one owner.  The wiring keeps the read end of the pipe that
was made for the newest stage, and each stage but the last one has the write end of its
pipe. -/
structure Handout.Live (p : Pipeline) (w₀ : World) (s : Handout) : Prop where
  index : s.wiring.index = s.got.length
  count : s.wiring.count = p.stages.size
  length : s.got.length ≤ p.stages.size
  dropped : ∀ i ∈ s.dropped, i < s.got.length
  pipes : s.world.machine.pipes.size =
    w₀.machine.pipes.size + min s.got.length (p.stages.size - 1)
  opened : ∀ o fd, s.number? o = some fd → (s.world.table.get? fd).isSome
  unique : ∀ o o' fd, s.number? o = some fd → s.number? o' = some fd → o = o'
  kept : ∀ fd, s.wiring.carried = some fd → ∃ i a, s.got.length = i + 1 ∧ s.got[i]? = some a ∧
    a.stray = some fd ∧ s.world.machine.fileAt? s.world.table fd =
      some (.pipe (w₀.machine.pipes.size + i) .reader)
  feeds : ∀ i fd, i + 1 < p.stages.size → s.number? (.output i) = some fd →
    s.world.machine.fileAt? s.world.table fd = some (.pipe (w₀.machine.pipes.size + i) .writer)

/-- What is live was live before, and it is still open under its number. -/
def Handout.Stays (s s' : Handout) : Prop :=
  ∀ o fd, s'.number? o = some fd →
    s.number? o = some fd ∧ s'.world.table.get? fd = s.world.table.get? fd

namespace Handout.Live

variable {p : Pipeline} {w₀ : World} {s s' : Handout} {wiring : Wiring} {w : World}
  {ends : StageEnds} {e : ExecError} {o o' : Owner} {fd : Descriptor} {stage : Nat}

theorem begin (p : Pipeline) (w : World) : Live p w (.begin p w) := by
  refine ⟨rfl, rfl, Nat.zero_le _, nofun, ?_, fun o fd ho ↦ ?_, fun o _ fd ho ↦ ?_, nofun,
    fun i fd _ ho ↦ ?_⟩
  · exact (congrArg (w.machine.pipes.size + ·) (Nat.zero_min _)).symm
  · cases o <;> cases ho
  · cases o <;> cases ho
  · cases ho

theorem of_stays (h : Live p w₀ s) (hstays : s.Stays s')
    (hindex : s'.wiring.index = s.wiring.index) (hcount : s'.wiring.count = s.wiring.count)
    (hgot : s'.got = s.got) (hdropped : ∀ i ∈ s'.dropped, i < s.got.length)
    (hgrows : s.world.machine.Grows s'.world.machine)
    (hpipes : s'.world.machine.pipes.size = s.world.machine.pipes.size) : Live p w₀ s' := by
  refine ⟨?_, hcount.trans h.count, ?_, ?_, ?_, ?_, ?_, ?_, ?_⟩
  · rw [hindex, hgot]
    exact h.index
  · rw [hgot]
    exact h.length
  · rw [hgot]
    exact hdropped
  · rw [hgot, hpipes]
    exact h.pipes
  · intro o fd ho
    obtain ⟨ho, hget⟩ := hstays o fd ho
    rw [hget]
    exact h.opened o fd ho
  · intro o o' fd ho ho'
    exact h.unique o o' fd (hstays o fd ho).1 (hstays o' fd ho').1
  · intro fd hfd
    obtain ⟨hkept, hget⟩ := hstays .wiring fd hfd
    obtain ⟨i, a, hi, ha, hstray, hfile⟩ := h.kept fd hkept
    exact ⟨i, a, hgot ▸ hi, hgot ▸ ha, hstray, hgrows.fileAt?_eq_pipe hget hfile⟩
  · intro i fd hi ho
    obtain ⟨ho, hget⟩ := hstays _ fd ho
    exact hgrows.fileAt?_eq_pipe hget (h.feeds i fd hi ho)

/-- Reading, writing and changes of the files leave all that is live where it is, and so does
an answer that gives and takes nothing. -/
theorem congr (h : Live p w₀ s) (hwiring : s'.wiring = s.wiring) (hgot : s'.got = s.got)
    (hdropped : s'.dropped = s.dropped) (hfiles : s.world.machine.SameFiles s'.world.machine)
    (htable : s'.world.table = s.world.table) : Live p w₀ s' := by
  have hstays : s.Stays s' := by
    intro o fd ho
    refine ⟨?_, by rw [htable]⟩
    rw [← ho]
    cases o <;> simp only [number?, live?, hwiring, hgot, hdropped]
  refine h.of_stays hstays ?_ ?_ hgot ?_ hfiles.grows hfiles.pipes
  · rw [hwiring]
  · rw [hwiring]
  · rw [hdropped]
    exact h.dropped

/-- Giving something up leaves alone what other owners have. -/
theorem drop (h : Live p w₀ s) (stage : Nat) : Live p w₀ (s.step (.drop stage)) := by
  cases hlive : s.live? stage with
  | none => rwa [step_drop_none hlive]
  | some ends =>
      have hnumber := number?_drop hlive
      rw [step_drop hlive] at hnumber ⊢
      refine h.of_stays ?_ rfl rfl rfl ?_ ?_ ?_
      · intro o fd ho
        rw [hnumber] at ho
        split at ho
        · cases ho
        next hother =>
          -- Another owner has another number.
          obtain ⟨hinput, houtput⟩ := not_or.1 hother
          refine ⟨ho, ends.get?_release_of_ne s.world (fun hfd ↦ hinput ?_) fun hfd ↦ houtput ?_⟩
          · exact h.unique _ _ fd ho (by simpa [number?, hlive] using hfd)
          · exact h.unique _ _ fd ho (by simpa [number?, hlive] using hfd)
      · intro i hi
        rcases List.mem_cons.1 hi with rfl | hi
        · exact lt_of_live? hlive
        · exact h.dropped i hi
      · rw [StageEnds.machine_release]
        exact .refl _
      · rw [StageEnds.machine_release]

theorem send (h : Live p w₀ s) (stage : Nat) (bytes : Bytes) :
    Live p w₀ (s.step (.send stage bytes)) := by
  cases hfd : s.number? (.output stage) with
  | none => rwa [step_send_none hfd]
  | some fd =>
      rw [step_send hfd]
      exact h.congr rfl rfl rfl (s.world.machine.sameFiles_write _ _ _ _) rfl

theorem receive (h : Live p w₀ s) (stage limit : Nat) :
    Live p w₀ (s.step (.receive stage limit)) := by
  cases hfd : s.number? (.input stage) with
  | none => rwa [step_receive_none hfd]
  | some fd =>
      rw [step_receive hfd]
      exact h.congr rfl rfl rfl (s.world.machine.sameFiles_read _ _ _ _) rfl

/-! ## Calls -/

theorem call_none (h : Live p w₀ s)
    (hnext : s.wiring.next s.world = (.ok none, wiring, w)) : Live p w₀ s.call := by
  obtain ⟨-, rfl, rfl⟩ := Wiring.index_of_next_none hnext
  have hgot : s.call.got = s.got := (got_call hnext).trans (List.append_nil _)
  rw [call_eq hnext] at hgot ⊢
  exact h.congr rfl hgot rfl (.refl _) rfl

/-- A refusal takes what the wiring has kept, and nothing from the stages. -/
theorem call_error (h : Live p w₀ s)
    (hnext : s.wiring.next s.world = (.error e, wiring, w)) : Live p w₀ s.call := by
  obtain ⟨-, hrefuses⟩ := Wiring.refuses_of_next hnext
  obtain ⟨hgrows, hpipes⟩ := hrefuses.grows
  have hgot : s.call.got = s.got := (got_call hnext).trans (List.append_nil _)
  have hwiring := hrefuses.wiring_eq
  rw [call_eq hnext] at hgot ⊢
  subst hwiring
  refine h.of_stays ?_ rfl rfl hgot h.dropped hgrows hpipes
  intro o fd ho
  have hne : o ≠ .wiring := by
    rintro rfl
    cases ho
  have ho : s.number? o = some fd := by
    cases o with
    | wiring => exact absurd rfl hne
    | _ => simpa only [number?, live?, hgot] using ho
  refine ⟨ho, ?_⟩
  rw [hrefuses.table_eq]
  exact s.wiring.get?_release_of_ne s.world fun hfd ↦ hne (h.unique _ .wiring fd ho hfd)

/-- What is live behind a call is new, or it was live before. -/
theorem gets_or_exists (h : Live p w₀ s)
    (hnext : s.wiring.next s.world = (.ok (some ends), wiring, w))
    (hinput : ∀ fd, s.wiring.carried = some fd → ends.input = .descriptor fd)
    (hstray : wiring.carried = ends.stray) (ho : s.call.number? o = some fd) :
    s.Gets ends fd o ∨ ∃ o', o = s.handOn o' ∧ s.number? o' = some fd := by
  rw [number?_call hnext h.dropped] at ho
  split at ho
  next howner =>
    subst howner
    exact .inl (.stray (hstray ▸ ho))
  next hne =>
    split at ho
    next howner =>
      subst howner
      cases hcarried : s.wiring.carried with
      | none => exact .inl (.input hcarried ho)
      | some fd' =>
          rw [hinput fd' hcarried] at ho
          obtain rfl : fd' = fd := Option.some.inj ho
          exact .inr ⟨.wiring, rfl, hcarried⟩
    next =>
      split at ho
      next howner =>
        subst howner
        exact .inl (.output ho)
      next =>
        refine .inr ⟨o, ?_, ho⟩
        cases o with
        | wiring => exact absurd rfl hne
        | _ => rfl

/-- A call that obtains a stage gives out new numbers and leaves the others where they
are. -/
theorem call_some (h : Live p w₀ s)
    (hnext : s.wiring.next s.world = (.ok (some ends), wiring, w)) : Live p w₀ s.call := by
  obtain ⟨hindex, hsupplies⟩ := Wiring.supplies_of_next hnext
  obtain ⟨held, hgives⟩ := hsupplies.exists_gives
  have hwiring := hsupplies.wiring_eq
  have hk : s.got.length < p.stages.size := by
    rw [h.index, h.count] at hindex
    exact Nat.lt_of_le_of_ne h.length hindex
  have hgot : s.call.got = s.got ++ [ends] := got_call hnext
  have hlength : s.call.got.length = s.got.length + 1 := by
    rw [hgot, List.length_append, List.length_singleton]
  have hcases : ∀ {o fd}, s.call.number? o = some fd →
      s.Gets ends fd o ∨ ∃ o', o = s.handOn o' ∧ s.number? o' = some fd :=
    fun ho ↦ h.gets_or_exists hnext hgives.input (hwiring ▸ rfl) ho
  have hnew : ∀ {fd o}, fd ∈ s.wiring.numbers ends → s.number? o ≠ some fd := by
    intro fd o hfd ho
    have hopen := h.opened o fd ho
    rw [hgives.get?_eq_none hfd] at hopen
    cases hopen
  have hstays : ∀ {o fd}, s.number? o = some fd → w.table.get? fd = s.world.table.get? fd :=
    fun ho ↦ hgives.get?_of_isSome (h.opened _ _ ho)
  have hpipes : w.machine.pipes.size =
      w₀.machine.pipes.size + min (s.got.length + 1) (p.stages.size - 1) := by
    by_cases hlast : s.wiring.index + 1 = s.wiring.count
    · rw [(hgives.last hlast).2, h.pipes]
      rw [h.index, h.count] at hlast
      omega
    · rw [(hgives.piped hlast).1, h.pipes]
      rw [h.index, h.count] at hlast
      omega
  have hnewest : s.got.length + 1 < p.stages.size →
      s.world.machine.pipes.size = w₀.machine.pipes.size + s.got.length ∧
        s.wiring.index + 1 ≠ s.wiring.count := by
    intro hmore
    rw [h.pipes, h.index, h.count]
    omega
  have hunique : ∀ o o' fd, s.call.number? o = some fd → s.call.number? o' = some fd → o = o' := by
    intro o o' fd ho ho'
    rcases hcases ho with hgets | ⟨o₁, rfl, ho₁⟩
    · rcases hcases ho' with hgets' | ⟨o₂, rfl, ho₂⟩
      · exact hgets.unique hgives.nodup hgets'
      · exact absurd ho₂ (hnew hgets.mem_numbers)
    · rcases hcases ho' with hgets' | ⟨o₂, rfl, ho₂⟩
      · exact absurd ho₁ (hnew hgets'.mem_numbers)
      · rw [h.unique o₁ o₂ fd ho₁ ho₂]
  refine ⟨?_, ?_, ?_, ?_, ?_, ?_, hunique, ?_, ?_⟩
  · rw [hlength, call_eq hnext, hwiring, h.index]
  · rw [call_eq hnext, hwiring]
    exact h.count
  · rw [hlength]
    exact hk
  · rw [hlength, call_eq hnext]
    exact fun i hi ↦ Nat.lt_succ_of_lt (h.dropped i hi)
  · rw [hlength, call_eq hnext]
    exact hpipes
  · intro o fd ho
    rw [call_eq hnext]
    rcases hcases ho with hgets | ⟨o', rfl, ho'⟩
    · exact hgives.isSome hgets.mem_numbers
    · rw [hstays ho']
      exact h.opened o' fd ho'
  · intro fd hfd
    rw [call_eq hnext] at hfd
    have hstray : ends.stray = some fd := by rwa [hwiring] at hfd
    have hmore : s.wiring.index + 1 ≠ s.wiring.count := by
      intro hlast
      rw [(hgives.last hlast).1] at hstray
      cases hstray
    refine ⟨s.got.length, ends, hlength, ?_, hstray, ?_⟩
    · rw [hgot, List.getElem?_concat_length]
    · have hlt : s.got.length + 1 < p.stages.size := by
        rw [h.index, h.count] at hmore
        omega
      rw [call_eq hnext, ← (hnewest hlt).1]
      exact (hgives.piped hmore).2.1 fd hstray
  · intro i fd hi ho
    rw [call_eq hnext]
    rcases hcases ho with hgets | ⟨o', howner, ho'⟩
    · cases hgets with
      | output houtput =>
          obtain ⟨hsize, hmore⟩ := hnewest hi
          rw [← hsize]
          exact (hgives.piped hmore).2.2 fd houtput
    · cases o' with
      | wiring => cases howner
      | input j => cases howner
      | output j =>
          cases howner
          exact hgives.grows.fileAt?_eq_pipe (hstays ho') (h.feeds i fd hi ho')

theorem step (h : Live p w₀ s) (move : Move) : Live p w₀ (s.step move) := by
  cases move with
  | next =>
      rcases call_cases s with ⟨e, wiring, w, hnext⟩ | ⟨wiring, w, hnext⟩ |
        ⟨ends, wiring, w, hnext⟩
      · exact h.call_error hnext
      · exact h.call_none hnext
      · exact h.call_some hnext
  | drop stage => exact h.drop stage
  | send stage bytes => exact h.send stage bytes
  | receive stage limit => exact h.receive stage limit
  | alter tree => exact h.congr rfl rfl rfl ⟨rfl, rfl, rfl, fun _ _ _ ↦ rfl⟩ rfl

end Handout.Live

end PipeShell

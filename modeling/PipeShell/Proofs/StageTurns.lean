import PipeShell.Proofs.PipeEnds

/-!
# The turns of the stages

What a wiring has handed out for some stages fixes the state in which it is the turn of
the next one: so many files have been opened and so many pipes made, each pipe has the
two ends that its stages get, and the shell holds the read end that is carried over.
Handing out one more stage leads to the next such state, and a refusal says which of the
two files could not be opened.  It does not matter here which standard streams the shell
has, nor whether a stage is started with what it gets.
-/

namespace PipeShell

namespace Wiring

variable {w w' : World}

theorem sound_openEnd {path : Option String} {purpose : Purpose} {given : Endpoint}
    (hw : w.Sound) (h : openEnd path purpose w = .ok (given, w')) : w'.Sound := by
  cases path with
  | none =>
      cases h
      exact hw
  | some path =>
      obtain ⟨fd, hopen, -⟩ := openEnd_eq_ok h
      exact hw.openFile hopen

/-- A file that is opened may be an end of a pipe, but only of the kind that it is
opened for. -/
theorem isEnd_openEnd {path : Option String} {purpose : Purpose} {given : Endpoint}
    (h : openEnd path purpose w = .ok (given, w')) {pipe : PipeId} {side : PipeEnd}
    {file : FileId} (hend : w'.machine.isEnd pipe side file = true) :
    w.machine.isEnd pipe side file = true ∨
      file = w.machine.opened.size ∧ side = purpose.side := by
  cases path with
  | none =>
      cases h
      exact .inl hend
  | some path =>
      obtain ⟨fd, hopen, -⟩ := openEnd_eq_ok h
      obtain ⟨file', machine, hmachine, -, rfl⟩ := World.openFile_eq_ok hopen
      obtain ⟨f, hpushes, hreopens⟩ := Machine.exists_pushes_mode hmachine
      rcases hpushes.isEnd_iff.1 hend with hend | ⟨hfile, rfl⟩
      · exact .inl hend
      · refine .inr ⟨hfile, ?_⟩
        generalize hside : OpenFile.pipe pipe side = f at hreopens
        cases hreopens with
        | node id => cases hside
        | pipe hopened =>
            cases hside
            cases purpose <;> rfl

end Wiring

namespace Pipeline

/-! ## Numbers of files -/

section Numbers

variable (p : Pipeline) (first : Nat)

/-- How many files are open when it is the turn of a stage. -/
def filesBefore : Nat → Nat
  | 0 => first
  | k + 1 => p.pipeReader first (k + 1)

/-- The number of the output file, if there is one. -/
def outputFile : FileId :=
  p.pipeReader first (p.stages.size - 1)

theorem outputFile_eq {i : Nat} (hlast : i + 1 = p.stages.size) :
    p.outputFile first = p.pipeReader first i := by
  rw [outputFile, ← hlast, Nat.add_sub_cancel]

theorem stageOutput_of_ne {i : Nat} (hmore : i + 1 ≠ p.stages.size) :
    p.stageOutput first i = some (p.pipeWriter first i) := by
  rw [stageOutput, if_neg hmore]

variable {p first} {i j : Nat} {file : FileId}

theorem stageInput_inj (hi : p.stageInput first i = some file)
    (hj : p.stageInput first j = some file) : i = j := by
  rcases stageInput_eq_some hi with ⟨rfl, hinput, rfl⟩ | ⟨i', rfl, rfl⟩
  · exact (eq_of_stageInput_eq_first hinput hj).symm
  · exact (eq_of_stageInput_eq_pipeReader hj).symm

theorem stageOutput_inj (hi : p.stageOutput first i = some file)
    (hj : p.stageOutput first j = some file) : i = j := by
  rcases stageOutput_eq_some hi with ⟨-, -, rfl⟩ | ⟨-, rfl⟩
  · exact (eq_of_stageOutput_eq_pipeReader hj).1.symm
  · exact (eq_of_stageOutput_eq_pipeWriter hj).symm

/-- The output file has the number that the read end of one more pipe would have. -/
theorem stageInput_ne_stageOutput (hi : p.stageInput first i = some file)
    (hlt : i < p.stages.size) : p.stageOutput first j ≠ some file := by
  intro hj
  rcases stageInput_eq_some hi with ⟨-, hinput, rfl⟩ | ⟨i', rfl, rfl⟩
  · exact stageOutput_ne_first hinput hj
  · obtain ⟨rfl, hlast⟩ := eq_of_stageOutput_eq_pipeReader hj
    exact Nat.ne_of_lt hlt hlast

variable (p first)

/-- A pipe of a run and its ends.  Its write end may be open once more, if the path of
the output file leads to it. -/
structure PipeMade (pipe : PipeId) (i : Nat) (m : Machine) : Prop where
  reader : ∀ file, m.isEnd pipe .reader file = true ↔ file = p.pipeReader first i
  writer : m.isEnd pipe .writer (p.pipeWriter first i) = true
  writers : ∀ file, m.isEnd pipe .writer file = true →
    file = p.pipeWriter first i ∨ file = p.outputFile first

end Numbers

variable {p : Pipeline} {first i : Nat} {pipe : PipeId}

theorem PipeMade.congr {m m' : Machine} (h : p.PipeMade first pipe i m)
    (hisEnd : ∀ side file, m'.isEnd pipe side file = m.isEnd pipe side file) :
    p.PipeMade first pipe i m' := by
  obtain ⟨hreader, hwriter, hwriters⟩ := h
  refine ⟨fun file ↦ ?_, ?_, fun file hend ↦ ?_⟩
  · rw [hisEnd]
    exact hreader file
  · rwa [hisEnd]
  · rw [hisEnd] at hend
    exact hwriters file hend

theorem PipeMade.lt_size {m : Machine} (h : p.PipeMade first pipe i m) :
    p.pipeWriter first i < m.opened.size :=
  (Array.getElem?_eq_some_iff.1 (Machine.isEnd_eq_true_iff.1 h.writer)).1

theorem PipeMade.openOutput {path : Option String} {e : Endpoint} {w w' : World}
    (h : p.PipeMade first pipe i w.machine)
    (hsize : w.machine.opened.size = p.outputFile first)
    (hgrows : w.machine.Grows w'.machine)
    (hopen : Wiring.openEnd path .writing w = .ok (e, w')) :
    p.PipeMade first pipe i w'.machine := by
  have hlt := h.lt_size
  refine ⟨fun file ↦ ⟨fun hend ↦ ?_, ?_⟩, ?_, fun file hend ↦ ?_⟩
  · rcases Wiring.isEnd_openEnd hopen hend with hend | ⟨-, hside⟩
    · exact (h.reader file).1 hend
    · cases hside
  · rintro rfl
    rw [hgrows.isEnd _ _ _ (Nat.lt_of_succ_lt hlt)]
    exact (h.reader _).2 rfl
  · rw [hgrows.isEnd _ _ _ hlt]
    exact h.writer
  · rcases Wiring.isEnd_openEnd hopen hend with hend | ⟨hfile, -⟩
    · exact h.writers file hend
    · exact .inr (hfile.trans hsize)

theorem PipeMade.makePipe {m : Machine} (h : p.PipeMade first pipe i m)
    (hpipe : pipe < m.pipes.size) : p.PipeMade first pipe i m.makePipe.2.2 := by
  have hold : ∀ side file,
      m.makePipe.2.2.isEnd pipe side file = true ↔ m.isEnd pipe side file = true := by
    intro side file
    rw [Machine.isEnd_makePipe_iff]
    refine or_iff_left ?_
    rintro ⟨heq, -⟩
    exact absurd heq (Nat.ne_of_lt hpipe)
  refine ⟨fun file ↦ ?_, ?_, fun file hend ↦ ?_⟩
  · rw [hold]
    exact h.reader file
  · rw [hold]
    exact h.writer
  · exact h.writers file ((hold _ _).1 hend)

/-- A new pipe has no ends but its own. -/
theorem pipeMade_makePipe {m : Machine}
    (hmade : ∀ pipe side file, m.isEnd pipe side file = true → pipe < m.pipes.size)
    (hsize : m.opened.size = p.pipeReader first i) :
    p.PipeMade first m.pipes.size i m.makePipe.2.2 := by
  have hnew : ∀ side file, m.makePipe.2.2.isEnd m.pipes.size side file = true ↔
      side = .reader ∧ file = m.opened.size ∨ side = .writer ∧ file = m.opened.size + 1 := by
    intro side file
    rw [Machine.isEnd_makePipe_iff]
    refine ⟨fun h ↦ ?_, fun h ↦ .inr ⟨rfl, h⟩⟩
    rcases h with h | ⟨-, h⟩
    · exact absurd (hmade _ _ _ h) (Nat.lt_irrefl _)
    · exact h
  refine ⟨fun file ↦ ?_, ?_, fun file hend ↦ ?_⟩
  · rw [hnew, ← hsize]
    simp
  · rw [hnew, pipeWriter, ← hsize]
    exact .inr ⟨rfl, rfl⟩
  · rw [hnew] at hend
    rcases hend with ⟨hside, -⟩ | ⟨-, hfile⟩
    · cases hside
    · exact .inl (by rw [hfile, pipeWriter, hsize])

/-! ## The turn of a stage -/

/-- It is the turn of a stage.  Of what the shell holds more than in the beginning, only
the read end that is carried over matters to the wiring. -/
structure AtTurn (p : Pipeline) (w₀ : World) (k : Nat) (carried : Option Descriptor)
    (held : List (Descriptor × Holding)) (w : World) : Prop where
  sound : w.Sound
  borrows : w₀.Borrows held w
  holds : (carried = none ∧ (k = 0 ∨ k = p.stages.size)) ∨
    ∃ fd i, carried = some fd ∧ k = i + 1 ∧ k < p.stages.size ∧
      (fd, ⟨p.pipeReader w₀.machine.opened.size i, true⟩) ∈ held
  opened : k < p.stages.size →
    w.machine.opened.size = p.filesBefore w₀.machine.opened.size k
  pipes : w.machine.pipes.size = w₀.machine.pipes.size + min k (p.stages.size - 1)
  made : ∀ i < k, i + 1 < p.stages.size →
    p.PipeMade w₀.machine.opened.size (w₀.machine.pipes.size + i) i w.machine

variable {w₀ w w' : World} {k : Nat} {carried : Option Descriptor} {e : Endpoint}
  {held : List (Descriptor × Holding)}

theorem AtTurn.zero (p : Pipeline) (hw : w.Sound) : p.AtTurn w 0 none [] w :=
  ⟨hw, .refl w, .inl ⟨rfl, .inl rfl⟩, fun _ ↦ rfl, by simp, nofun⟩

theorem AtTurn.le_size (h : p.AtTurn w₀ k carried held w) : k ≤ p.stages.size := by
  rcases h.holds with ⟨-, rfl | rfl⟩ | ⟨-, -, -, -, hk, -⟩
  · exact Nat.zero_le _
  · exact Nat.le_refl _
  · exact Nat.le_of_lt hk

/-- Only the first stage may have to wait for a file. -/
theorem AtTurn.exists_nextInput (h : p.AtTurn w₀ k carried held w) (hk : k < p.stages.size)
    (hinput : k = 0 → ∃ e w₁, Wiring.openEnd p.input .reading w = .ok (e, w₁)) :
    ∃ e w₁, (Wiring.before p k carried).nextInput w = .ok (e, w₁) := by
  rcases h.holds with ⟨rfl, hk'⟩ | ⟨fd, i, rfl, -⟩
  · exact hinput (hk'.resolve_right (Nat.ne_of_lt hk))
  · exact ⟨.descriptor fd, w, rfl⟩

/-- A turn lasts while nothing is opened and the read end is kept. -/
theorem AtTurn.congr (h : p.AtTurn w₀ k carried held w)
    {held' : List (Descriptor × Holding)} (hsound : w'.Sound) (hborrows : w₀.Borrows held' w')
    (hopened : w'.machine.opened.size = w.machine.opened.size)
    (hpipes : w'.machine.pipes.size = w.machine.pipes.size)
    (hisEnd : ∀ pipe side file, w'.machine.isEnd pipe side file = w.machine.isEnd pipe side file)
    (hkeeps : ∀ fd i, carried = some fd → k = i + 1 →
      (fd, ⟨p.pipeReader w₀.machine.opened.size i, true⟩) ∈ held →
      (fd, ⟨p.pipeReader w₀.machine.opened.size i, true⟩) ∈ held') :
    p.AtTurn w₀ k carried held' w' := by
  refine ⟨hsound, hborrows, ?_, fun hk ↦ hopened.trans (h.opened hk), hpipes.trans h.pipes,
    fun i hi hmore ↦ (h.made i hi hmore).congr (hisEnd _)⟩
  rcases h.holds with hnone | ⟨fd, i, hcarried, hk, hmore, hmem⟩
  · exact .inl hnone
  · exact .inr ⟨fd, i, hcarried, hk, hmore, hkeeps fd i hcarried hk hmem⟩

/-- The input of a stage is there: it has been opened, or it was carried over. -/
structure InputTaken (p : Pipeline) (w₀ : World) (k : Nat) (carried : Option Descriptor)
    (held : List (Descriptor × Holding)) (e : Endpoint)
    (inputHeld new : List (Descriptor × Holding)) (w : World) : Prop where
  leads : e.Leads (p.stageInput w₀.machine.opened.size k) inputHeld
  source : (k = 0 ∧ new = inputHeld) ∨
    ∃ fd, carried = some fd ∧ 0 < k ∧ new = [] ∧ e = .descriptor fd ∧ inputHeld ⊆ held
  sound : w.Sound
  borrows : w₀.Borrows (new ++ held) w
  opened : w.machine.opened.size = p.pipeReader w₀.machine.opened.size k
  pipes : w.machine.pipes.size = w₀.machine.pipes.size + k
  made : ∀ i < k, i + 1 < p.stages.size →
    p.PipeMade w₀.machine.opened.size (w₀.machine.pipes.size + i) i w.machine

theorem AtTurn.exists_inputTaken (h : p.AtTurn w₀ k carried held w) (hk : k < p.stages.size)
    (hinput : (Wiring.before p k carried).nextInput w = .ok (e, w')) :
    ∃ inputHeld new, p.InputTaken w₀ k carried held e inputHeld new w' := by
  have hmin : min k (p.stages.size - 1) = k := by omega
  have hpipes := h.pipes
  rw [hmin] at hpipes
  rcases h.holds with ⟨rfl, rfl | hk'⟩ | ⟨fd, i, rfl, rfl, -, hmem⟩
  · -- Only the first stage takes the input file.
    have hinput : Wiring.openEnd p.input .reading w = .ok (e, w') := hinput
    have hfirst : w.machine.opened.size = w₀.machine.opened.size := h.opened hk
    obtain ⟨new, hleads, hborrows, -, hopened, hpipes'⟩ :=
      Wiring.exists_endOpened h.borrows hinput
    rw [hfirst] at hleads hopened
    exact ⟨new, new, hleads, .inl ⟨rfl, rfl⟩, Wiring.sound_openEnd h.sound hinput, hborrows,
      hopened, hpipes'.trans hpipes, nofun⟩
  · exact absurd hk' (Nat.ne_of_lt hk)
  · cases hinput
    refine ⟨_, [], .descriptor fd _, .inr ⟨fd, rfl, Nat.succ_pos i, rfl, rfl, ?_⟩, h.sound,
      h.borrows, h.opened hk, hpipes, h.made⟩
    exact List.cons_subset.2 ⟨hmem, List.nil_subset _⟩

/-! ## The next turn -/

/-- A stage has been served: the shell holds what the stage gets and what it keeps
itself, and it is the turn of the next stage. -/
structure Served (p : Pipeline) (w₀ : World) (k : Nat) (carried : Option Descriptor)
    (held : List (Descriptor × Holding)) (ends : StageEnds)
    (inputHeld outputHeld strayHeld new : List (Descriptor × Holding)) (w : World) : Prop where
  input : ends.input.Leads (p.stageInput w₀.machine.opened.size k) inputHeld
  source : (k = 0 ∧ new = inputHeld) ∨
    ∃ fd, carried = some fd ∧ 0 < k ∧ new = [] ∧ ends.input = .descriptor fd ∧
      inputHeld ⊆ held
  output : ends.output.Leads (p.stageOutput w₀.machine.opened.size k) outputHeld
  stray : (ends.stray = none ∧ strayHeld = [] ∧ k + 1 = p.stages.size) ∨
    ∃ fd, ends.stray = some fd ∧ k + 1 < p.stages.size ∧
      strayHeld = [(fd, ⟨p.pipeReader w₀.machine.opened.size k, true⟩)]
  turn : p.AtTurn w₀ (k + 1) ends.stray (outputHeld ++ (strayHeld ++ (new ++ held))) w

variable {ends : StageEnds} {s : Wiring}

namespace Served

variable {inputHeld outputHeld strayHeld new : List (Descriptor × Holding)} {fd : Descriptor}

theorem exists_mem_of_input
    (h : p.Served w₀ k carried held ends inputHeld outputHeld strayHeld new w)
    (hends : ends.input = .descriptor fd) :
    ∃ file, p.stageInput w₀.machine.opened.size k = some file ∧
      (fd, ⟨file, true⟩) ∈ outputHeld ++ (strayHeld ++ (new ++ held)) := by
  obtain ⟨file, hfile, hheld⟩ := Endpoint.Leads.exists_file (hends ▸ h.input)
  refine ⟨file, hfile, List.mem_append_right _ (List.mem_append_right _ ?_)⟩
  rcases h.source with ⟨-, rfl⟩ | ⟨-, -, -, -, -, hsubset⟩
  · exact List.mem_append_left _ (by simp [hheld])
  · exact List.mem_append_right _ (hsubset (by simp [hheld]))

theorem exists_mem_of_output
    (h : p.Served w₀ k carried held ends inputHeld outputHeld strayHeld new w)
    (hends : ends.output = .descriptor fd) :
    ∃ file, p.stageOutput w₀.machine.opened.size k = some file ∧
      (fd, ⟨file, true⟩) ∈ outputHeld ++ (strayHeld ++ (new ++ held)) := by
  obtain ⟨file, hfile, hheld⟩ := Endpoint.Leads.exists_file (hends ▸ h.output)
  exact ⟨file, hfile, List.mem_append_left _ (by simp [hheld])⟩

theorem mem_of_stray
    (h : p.Served w₀ k carried held ends inputHeld outputHeld strayHeld new w)
    (hends : ends.stray = some fd) :
    (fd, ⟨p.pipeReader w₀.machine.opened.size k, true⟩) ∈
      outputHeld ++ (strayHeld ++ (new ++ held)) := by
  rcases h.stray with ⟨hnone, -⟩ | ⟨fd', hsome, -, rfl⟩
  · exact nomatch hnone.symm.trans hends
  · obtain rfl : fd' = fd := Option.some.inj (hsome.symm.trans hends)
    simp

end Served

section InputTaken

variable {w₁ : World} {input output : Endpoint} {inputHeld new : List (Descriptor × Holding)}

theorem InputTaken.exists_served_last
    (h : p.InputTaken w₀ k carried held input inputHeld new w₁) (hlast : k + 1 = p.stages.size)
    (houtput : Wiring.openEnd p.output .writing w₁ = .ok (output, w)) :
    ∃ outputHeld, p.Served w₀ k carried held ⟨input, output, none⟩ inputHeld outputHeld [] new
      w := by
  obtain ⟨outputHeld, hleads, hborrows, hgrows, hopened, hpipes⟩ :=
    Wiring.exists_endOpened h.borrows houtput
  have hnot : ¬ k + 1 < p.stages.size := Nat.not_lt.2 (Nat.le_of_eq hlast.symm)
  refine ⟨outputHeld, h.leads, h.source, ?_, .inl ⟨rfl, rfl, hlast⟩,
    Wiring.sound_openEnd h.sound houtput, hborrows, .inl ⟨rfl, .inr hlast⟩,
    fun hmore ↦ absurd hmore hnot, ?_, fun i hi hmore ↦ ?_⟩
  · rw [stageOutput, if_pos hlast, ← h.opened]
    exact hleads
  · rw [hpipes, h.pipes, ← hlast, Nat.add_sub_cancel, Nat.min_eq_right (Nat.le_succ k)]
  · refine (h.made i (by omega) hmore).openOutput ?_ hgrows houtput
    rw [h.opened, p.outputFile_eq _ hlast]

theorem InputTaken.served_piped
    (h : p.InputTaken w₀ k carried held input inputHeld new w₁) (hmore : k + 1 < p.stages.size) :
    p.Served w₀ k carried held ⟨input, .descriptor w₁.makePipe.2.1, some w₁.makePipe.1⟩ inputHeld
      [(w₁.makePipe.2.1, ⟨w₁.machine.opened.size + 1, true⟩)]
      [(w₁.makePipe.1, ⟨w₁.machine.opened.size, true⟩)] new w₁.makePipe.2.2 := by
  refine ⟨h.leads, h.source, ?_, .inr ⟨_, rfl, hmore, ?_⟩, h.sound.pipe, h.borrows.pipe,
    .inr ⟨_, k, rfl, rfl, hmore, ?_⟩, fun _ ↦ ?_, ?_, fun i hi hi' ↦ ?_⟩
  · rw [p.stageOutput_of_ne _ (Nat.ne_of_lt hmore), pipeWriter, ← h.opened]
    exact .descriptor _ _
  · rw [h.opened]
  · rw [← h.opened]
    exact List.mem_append_right _ (List.mem_append_left _ List.mem_cons_self)
  · rw [filesBefore, pipeReader_succ, ← h.opened]
    exact w₁.machine.size_opened_makePipe
  · have hmin : min (k + 1) (p.stages.size - 1) = k + 1 := by omega
    rw [hmin, ← Nat.add_assoc, ← h.pipes]
    exact w₁.machine.size_pipes_makePipe
  · -- The newest pipe is that of this stage, the others were there before.
    rcases Nat.lt_succ_iff_lt_or_eq.1 hi with hi | rfl
    · have hold : w₀.machine.pipes.size + i < w₁.machine.pipes.size := by
        rw [h.pipes]
        exact Nat.add_lt_add_left hi _
      exact (h.made i hi hi').makePipe hold
    · rw [← h.pipes]
      exact pipeMade_makePipe h.sound.made h.opened

end InputTaken

theorem AtTurn.exists_served (h : p.AtTurn w₀ k carried held w)
    (hnext : (Wiring.before p k carried).next w = (.ok (some ends), s, w')) :
    k < p.stages.size ∧ s = Wiring.before p (k + 1) ends.stray ∧
      ∃ inputHeld outputHeld strayHeld new,
        p.Served w₀ k carried held ends inputHeld outputHeld strayHeld new w' := by
  obtain ⟨hindex, hsupplies⟩ := Wiring.supplies_of_next hnext
  have hk : k < p.stages.size := Nat.lt_of_le_of_ne h.le_size hindex
  refine ⟨hk, ?_⟩
  cases hsupplies with
  | last hinput hlast houtput =>
      obtain ⟨inputHeld, new, htaken⟩ := h.exists_inputTaken hk hinput
      obtain ⟨outputHeld, hserved⟩ := htaken.exists_served_last hlast houtput
      exact ⟨rfl, inputHeld, outputHeld, [], new, hserved⟩
  | piped hinput hmore _ =>
      obtain ⟨inputHeld, new, htaken⟩ := h.exists_inputTaken hk hinput
      exact ⟨rfl, inputHeld, _, _, new, htaken.served_piped (Nat.lt_of_le_of_ne hk hmore)⟩

end Pipeline

end PipeShell

import PipeShell.Proofs.Handouts

/-!
# What flows through the pipes

While a wiring hands out descriptors, each end of the pipes that it makes has one owner.
So what a stage sends is what the next one receives, in order and complete, and what has
not been received yet is under way.

There is one way around this.  A path can lead to a descriptor of the shell, and if that
of the output file leads to a pipe of the wiring's own, then what the last stage sends
goes into that pipe as well.
-/

namespace PipeShell

namespace Machine

variable {m : Machine} {shell t : Table} {fd : Descriptor} {pipe : PipeId}

/-- What a pipe holds. -/
def underWay (m : Machine) (pipe : PipeId) : Bytes :=
  m.pipes[pipe]?.getD []

theorem underWay_of_pipes {m' : Machine} (h : m'.pipes = m.pipes) (pipe : PipeId) :
    m'.underWay pipe = m.underWay pipe := by
  rw [underWay, underWay, h]

theorem underWay_set {m' : Machine} {id : PipeId} {bytes : Bytes}
    (h : m'.pipes = m.pipes.setIfInBounds id bytes) (hpipe : pipe < m.pipes.size) :
    m'.underWay pipe = if id = pipe then bytes else m.underWay pipe := by
  rw [underWay, h, Array.getElem?_setIfInBounds]
  split
  next heq =>
    subst heq
    simp [hpipe]
  next => rfl

/-- A write adds what it takes to the pipe that the file is a write end of, and to no
other. -/
theorem underWay_writeFile (hpipe : pipe < m.pipes.size) (shell : Table) (file : FileId)
    (bytes : Bytes) :
    (m.writeFile shell file bytes).2.underWay pipe = m.underWay pipe ++
      if m.opened[file]? = some (.pipe pipe .writer) then
        (m.writeFile shell file bytes).1.taken bytes else [] := by
  unfold writeFile
  split
  next id access offset appends hopened =>
    have hnot : m.opened[file]? ≠ some (.pipe pipe .writer) := by simp [hopened]
    rw [if_neg hnot, List.append_nil]
    split
    · rfl
    split <;> rfl
  next id hopened =>
    have hiff : m.opened[file]? = some (.pipe pipe .writer) ↔ id = pipe := by simp [hopened]
    simp only [hiff]
    split
    · simp [WriteReply.taken]
    split
    next under hunder =>
      split
      · simp [WriteReply.taken]
      · rw [underWay_set rfl hpipe]
        split
        next heq =>
          subst heq
          simp [underWay, hunder, WriteReply.taken]
        next => rw [List.append_nil]
    next => simp [WriteReply.taken]
  next => simp [WriteReply.taken]

/-- A read takes what it gives out of the pipe that the file is a read end of, and out of
no other. -/
theorem underWay_readFile (hpipe : pipe < m.pipes.size) (shell : Table) (file : FileId)
    (limit : Nat) :
    m.underWay pipe = (if m.opened[file]? = some (.pipe pipe .reader) then
      (m.readFile shell file limit).1.bytes else []) ++
        (m.readFile shell file limit).2.underWay pipe := by
  cases hopened : m.opened[file]? with
  | none => simp [readFile, hopened]
  | some f =>
      cases f with
      | node id access offset appends =>
          simp only [readFile, hopened]
          rw [if_neg nofun, List.nil_append]
          split
          · rfl
          split <;> rfl
      | pipe id side =>
          cases side with
          | writer => simp [readFile, hopened]
          | reader =>
              have hiff : some (OpenFile.pipe id .reader) = some (.pipe pipe .reader) ↔
                  id = pipe := by simp
              simp only [readFile, hopened, hiff]
              rcases hunder : m.pipes[id]? with - | (- | ⟨b, bytes⟩)
              · dsimp only
                split <;> split <;> simp [ReadReply.bytes]
              · dsimp only
                split <;> split <;> simp [ReadReply.bytes]
              · have hleft : ({ m with pipes :=
                    m.pipes.setIfInBounds id ((b :: bytes).drop limit) } : Machine).underWay pipe =
                      if id = pipe then (b :: bytes).drop limit else m.underWay pipe :=
                  underWay_set rfl hpipe
                dsimp only
                rw [hleft]
                split
                next heq =>
                  subst heq
                  have hhere : m.underWay id = b :: bytes := by simp [underWay, hunder]
                  rw [hhere, ReadReply.bytes, List.take_append_drop]
                next => rw [List.nil_append]

/-- What is read from a pipe depends on what is under way in it, and if that is nothing on
whether anyone could still write. -/
theorem reply_readFile {shell : Table} {file : FileId}
    (hfile : m.opened[file]? = some (.pipe pipe .reader)) (limit : Nat) :
    (m.readFile shell file limit).1 =
      if m.underWay pipe = [] then if m.held shell pipe .writer then .blocked else .data []
      else .data ((m.underWay pipe).take limit) := by
  unfold readFile
  rw [hfile]
  dsimp only
  split
  next b bytes hunder => simp [underWay, hunder]
  next hunder =>
    have hnil : m.underWay pipe = [] := by
      cases hpipe : m.pipes[pipe]? with
      | none => simp [underWay, hpipe]
      | some bytes =>
          cases bytes with
          | nil => simp [underWay, hpipe]
          | cons b bytes => exact absurd hpipe (hunder b bytes)
    rw [if_pos hnil]
    split <;> rfl

theorem reply_read {t : Table} {fd : Descriptor}
    (hfile : m.fileAt? t fd = some (.pipe pipe .reader)) (shell : Table) (limit : Nat) :
    (m.read shell t fd limit).1 =
      if m.underWay pipe = [] then if m.held shell pipe .writer then .blocked else .data []
      else .data ((m.underWay pipe).take limit) := by
  obtain ⟨h, hget, hopened⟩ := Option.bind_eq_some_iff.1 hfile
  rw [read, hget]
  exact reply_readFile hopened limit

/-- A write into a pipe changes what is under way in it, and nothing else. -/
theorem exists_write_eq {t : Table} {fd : Descriptor}
    (hfile : m.fileAt? t fd = some (.pipe pipe .writer)) (shell : Table) (bytes : Bytes) :
    ∃ content, (m.write shell t fd bytes).2 =
      { m with pipes := m.pipes.setIfInBounds pipe content } := by
  have hpipes : m.pipes.setIfInBounds pipe (m.underWay pipe) = m.pipes := by
    refine Array.ext_getElem? fun id ↦ ?_
    rw [Array.getElem?_setIfInBounds]
    split
    next heq =>
      subst heq
      split
      next hlt => simp [underWay, hlt]
      next hlt => rw [Array.getElem?_eq_none (Nat.not_lt.1 hlt)]
    next => rfl
  have hsame : ∃ content, m = { m with pipes := m.pipes.setIfInBounds pipe content } :=
    ⟨m.underWay pipe, by rw [hpipes]⟩
  obtain ⟨h, hget, hopened⟩ := Option.bind_eq_some_iff.1 hfile
  rw [write, hget]
  dsimp only
  unfold writeFile
  rw [hopened]
  dsimp only
  split
  · exact hsame
  split
  · split
    · exact hsame
    · exact ⟨_, rfl⟩
  · exact hsame

theorem underWay_write (hpipe : pipe < m.pipes.size) (shell t : Table) (fd : Descriptor)
    (bytes : Bytes) :
    (m.write shell t fd bytes).2.underWay pipe = m.underWay pipe ++
      if m.fileAt? t fd = some (.pipe pipe .writer) then
        (m.write shell t fd bytes).1.taken bytes else [] := by
  unfold write fileAt?
  cases t.get? fd with
  | none => simp
  | some h => exact underWay_writeFile hpipe shell h.file bytes

theorem underWay_read (hpipe : pipe < m.pipes.size) (shell t : Table) (fd : Descriptor)
    (limit : Nat) :
    m.underWay pipe = (if m.fileAt? t fd = some (.pipe pipe .reader) then
      (m.read shell t fd limit).1.bytes else []) ++
        (m.read shell t fd limit).2.underWay pipe := by
  unfold read fileAt?
  cases t.get? fd with
  | none => simp
  | some h => exact underWay_readFile hpipe shell h.file limit

end Machine

theorem Wiring.pipes_openEnd {path : Option String} {purpose : Purpose} {w w' : World}
    {e : Endpoint} (h : openEnd path purpose w = .ok (e, w')) :
    w'.machine.pipes = w.machine.pipes := by
  cases path with
  | none =>
      cases h
      rfl
  | some path =>
      obtain ⟨fd, hopen, -⟩ := openEnd_eq_ok h
      obtain ⟨file, machine, hmachine, -, rfl⟩ := World.openFile_eq_ok hopen
      obtain ⟨f, hpushes, -⟩ := Machine.exists_pushes_mode hmachine
      exact hpushes.pipes

/-- All stages but the last one get a new pipe, in which nothing is under way. -/
theorem Wiring.pipes_next {s s' : Wiring} {w w' : World} {ends : StageEnds}
    (h : s.next w = (.ok (some ends), s', w')) :
    w'.machine.pipes =
      if s.index + 1 = s.count then w.machine.pipes else w.machine.pipes.push [] := by
  have htakes : ∀ {e w₁}, s.nextInput w = .ok (e, w₁) → w₁.machine.pipes = w.machine.pipes := by
    intro e w₁ hinput
    unfold nextInput at hinput
    split at hinput
    · cases hinput
      rfl
    · exact pipes_openEnd hinput
  obtain ⟨-, hsupplies⟩ := supplies_of_next h
  cases hsupplies with
  | last hinput hlast houtput =>
      rw [if_pos hlast, pipes_openEnd houtput, htakes hinput]
  | piped hinput hmore =>
      rw [if_neg hmore, ← htakes hinput]
      rfl

theorem Wiring.underWay_next {s s' : Wiring} {w w' : World} {ends : StageEnds} {pipe : PipeId}
    (h : s.next w = (.ok (some ends), s', w')) (hpipe : pipe < w.machine.pipes.size) :
    w'.machine.underWay pipe = w.machine.underWay pipe := by
  rw [Machine.underWay, Machine.underWay, pipes_next h]
  split
  · rfl
  · rw [Array.getElem?_push, if_neg (Nat.ne_of_lt hpipe)]

theorem Wiring.underWay_next_new {s s' : Wiring} {w w' : World} {ends : StageEnds}
    (h : s.next w = (.ok (some ends), s', w')) (hmore : s.index + 1 ≠ s.count) :
    w'.machine.underWay w.machine.pipes.size = [] := by
  rw [Machine.underWay, pipes_next h, if_neg hmore, Array.getElem?_push_size]
  rfl

/-! ## Who has the ends of a pipe -/

namespace Pipeline

/-- The output file is one more write end of a pipe of the chain: its path leads to a
descriptor that is one. -/
def Returns (p : Pipeline) (w₀ : World) (m : Machine) (i : Nat) : Prop :=
  m.isEnd (w₀.machine.pipes.size + i) .writer (p.outputFile w₀.machine.opened.size) = true

instance (p : Pipeline) (w₀ : World) (m : Machine) (i : Nat) : Decidable (p.Returns w₀ m i) :=
  inferInstanceAs (Decidable (_ = true))

/-- Whether what a stage sends goes into a pipe of the chain. -/
def sendsInto (p : Pipeline) (w₀ : World) (m : Machine) (i stage : Nat) : Bool :=
  stage == i || (stage + 1 == p.stages.size && decide (p.Returns w₀ m i))

theorem sendsInto_iff {p : Pipeline} {w₀ : World} {m : Machine} {i stage : Nat} :
    p.sendsInto w₀ m i stage = true ↔
      stage = i ∨ stage + 1 = p.stages.size ∧ p.Returns w₀ m i := by
  simp [sendsInto]

theorem sendsInto_congr (p : Pipeline) {w₀ : World} {m m' : Machine}
    (hisEnd : ∀ pipe side file, m'.isEnd pipe side file = m.isEnd pipe side file) (i : Nat) :
    p.sendsInto w₀ m' i = p.sendsInto w₀ m i := by
  funext stage
  rw [Bool.eq_iff_iff, sendsInto_iff, sendsInto_iff, Returns, Returns, hisEnd]

end Pipeline

/-- Who has the read end of a pipe, when it has not been given up: the wiring until the
next stage is obtained, and then that stage. -/
def Handout.reader (s : Handout) (i : Nat) : Owner :=
  if s.got.length = i + 1 then .wiring else .input (i + 1)

namespace Intact

variable {p : Pipeline} {w₀ : World} {held : List (Descriptor × Holding)} {s : Handout}
  {o : Owner} {fd : Descriptor} {i : Nat} {pipe : PipeId} {side : PipeEnd}

/-- A descriptor stands for an end of a pipe that is new if its owner's file is that end. -/
theorem fileAt?_eq_pipe_iff (h : Intact p w₀ held s) (hw₀ : w₀.HoldsOpened)
    (hnew : ∀ file, s.world.machine.isEnd pipe side file = true → w₀.machine.opened.size ≤ file) :
    s.world.machine.fileAt? s.world.table fd = some (.pipe pipe side) ↔
      ∃ o file, s.number? o = some fd ∧
        o.file? p w₀.machine.opened.size s.got.length = some file ∧
        s.world.machine.isEnd pipe side file = true := by
  constructor
  · intro hfile
    obtain ⟨x, hget, hopened⟩ := Option.bind_eq_some_iff.1 hfile
    have hend := Machine.isEnd_eq_true_iff.2 hopened
    have hmem := Table.mem_of_get? hget
    rw [h.turn.borrows.lends.eq] at hmem
    rcases List.mem_append.1 hmem with hmem | hmem
    · obtain ⟨o, ho, hofile⟩ := h.owned _ hmem
      exact ⟨o, x.file, ho, hofile, hend⟩
    · exact absurd (hnew x.file hend) (Nat.not_le.2 (hw₀.shell _ hmem))
  · rintro ⟨o, file, ho, hofile, hend⟩
    obtain ⟨file', hofile', hmem⟩ := h.owns o fd ho
    obtain rfl : file = file' := Option.some.inj (hofile.symm.trans hofile')
    exact Option.bind_eq_some_iff.2
      ⟨_, h.turn.borrows.lends.get? hmem, Machine.isEnd_eq_true_iff.1 hend⟩

theorem fileAt?_reader_iff (h : Intact p w₀ held s) (hw₀ : w₀.HoldsOpened)
    (hi : i < s.got.length) (hmore : i + 1 < p.stages.size) :
    s.world.machine.fileAt? s.world.table fd = some (.pipe (w₀.machine.pipes.size + i) .reader) ↔
      s.number? (s.reader i) = some fd := by
  have hmade := h.turn.made i hi hmore
  rw [h.fileAt?_eq_pipe_iff hw₀ fun file hend ↦ by
    rw [(hmade.reader file).1 hend]
    exact Pipeline.le_pipeReader i]
  constructor
  · rintro ⟨o, file, ho, hfile, hend⟩
    rw [(hmade.reader file).1 hend] at hfile
    have hfits := h.fits_of_number? ho
    cases o with
    | wiring =>
        have hlength : s.got.length = i + 1 := Pipeline.eq_of_stageInput_eq_pipeReader hfile
        rwa [Handout.reader, if_pos hlength]
    | input j =>
        obtain rfl : j = i + 1 := Pipeline.eq_of_stageInput_eq_pipeReader hfile
        rwa [Handout.reader, if_neg (Nat.ne_of_gt hfits.1)]
    | output j =>
        obtain ⟨rfl, hlast⟩ := Pipeline.eq_of_stageOutput_eq_pipeReader hfile
        exact absurd hlast (Nat.ne_of_lt hmore)
  · intro ho
    refine ⟨s.reader i, p.pipeReader w₀.machine.opened.size i, ho, ?_, (hmade.reader _).2 rfl⟩
    unfold Handout.reader
    split
    next hlength =>
      rw [Owner.file?, hlength]
      rfl
    next => rfl

theorem fileAt?_writer_iff (h : Intact p w₀ held s) (hw₀ : w₀.HoldsOpened)
    (hi : i < s.got.length) (hmore : i + 1 < p.stages.size) :
    s.world.machine.fileAt? s.world.table fd = some (.pipe (w₀.machine.pipes.size + i) .writer) ↔
      s.number? (.output i) = some fd ∨
        p.Returns w₀ s.world.machine i ∧ s.number? (.output (p.stages.size - 1)) = some fd := by
  have hmade := h.turn.made i hi hmore
  have hlast : p.stages.size - 1 + 1 = p.stages.size := by omega
  rw [h.fileAt?_eq_pipe_iff hw₀ fun file hend ↦ by
    rcases hmade.writers file hend with rfl | rfl
    · exact Nat.le_succ_of_le (Pipeline.le_pipeReader i)
    · exact Pipeline.le_pipeReader _]
  constructor
  · rintro ⟨o, file, ho, hfile, hend⟩
    have hfits := h.fits_of_number? ho
    rcases hmade.writers file hend with rfl | rfl
    · cases o with
      | wiring => exact absurd hfile Pipeline.stageInput_ne_pipeWriter
      | input j => exact absurd hfile Pipeline.stageInput_ne_pipeWriter
      | output j =>
          obtain rfl := Pipeline.eq_of_stageOutput_eq_pipeWriter hfile
          exact .inl ho
    · refine .inr ⟨hend, ?_⟩
      cases o with
      | wiring =>
          have hlength := Pipeline.eq_of_stageInput_eq_pipeReader hfile
          exact absurd (hlength.trans hlast) (Nat.ne_of_lt hfits)
      | input j =>
          have hj := Pipeline.eq_of_stageInput_eq_pipeReader hfile
          exact absurd (hj.trans hlast) (Nat.ne_of_lt hfits.2)
      | output j =>
          obtain ⟨rfl, -⟩ := Pipeline.eq_of_stageOutput_eq_pipeReader hfile
          exact ho
  · rintro (ho | ⟨hreturns, ho⟩)
    · exact ⟨_, _, ho, p.stageOutput_of_ne _ (Nat.ne_of_lt hmore), hmade.writer⟩
    · obtain ⟨file, hfile, -⟩ := h.owns _ fd ho
      refine ⟨_, file, ho, hfile, ?_⟩
      rcases Pipeline.stageOutput_eq_some hfile with ⟨-, -, rfl⟩ | ⟨hne, -⟩
      · exact hreturns
      · exact absurd hlast hne

theorem fileAt?_output_iff (h : Intact p w₀ held s) (hw₀ : w₀.HoldsOpened)
    (hi : i < s.got.length) (hmore : i + 1 < p.stages.size) {stage : Nat}
    (ho : s.number? (.output stage) = some fd) :
    s.world.machine.fileAt? s.world.table fd = some (.pipe (w₀.machine.pipes.size + i) .writer) ↔
      p.sendsInto w₀ s.world.machine i stage = true := by
  have hsame : ∀ j, s.number? (.output j) = some fd ↔ stage = j := by
    intro j
    refine ⟨fun hj ↦ ?_, ?_⟩
    · have howner := h.owner_unique ho hj
      injection howner
    · rintro rfl
      exact ho
  rw [h.fileAt?_writer_iff hw₀ hi hmore, hsame, hsame, Pipeline.sendsInto_iff]
  have hlast : stage = p.stages.size - 1 ↔ stage + 1 = p.stages.size := by omega
  rw [hlast, and_comm]

theorem fileAt?_input_iff (h : Intact p w₀ held s) (hw₀ : w₀.HoldsOpened)
    (hi : i < s.got.length) (hmore : i + 1 < p.stages.size) {stage : Nat}
    (ho : s.number? (.input stage) = some fd) :
    s.world.machine.fileAt? s.world.table fd = some (.pipe (w₀.machine.pipes.size + i) .reader) ↔
      stage = i + 1 := by
  rw [h.fileAt?_reader_iff hw₀ hi hmore]
  constructor
  · intro hreader
    have howner := h.owner_unique ho hreader
    unfold Handout.reader at howner
    split at howner
    · cases howner
    · injection howner
  · rintro rfl
    have hfits := h.fits_of_number? ho
    rwa [Handout.reader, if_neg (Nat.ne_of_gt hfits.1)]

theorem lt_size_pipes (h : Intact p w₀ held s) (hi : i < s.got.length)
    (hmore : i + 1 < p.stages.size) :
    w₀.machine.pipes.size + i < s.world.machine.pipes.size := by
  rw [h.turn.pipes]
  omega

end Intact

/-! ## What is sent is received -/

/-- What some stages have sent or received, in order. -/
def flow (log : List (Nat × Bytes)) (who : Nat → Bool) : Bytes :=
  (log.filter fun entry ↦ who entry.1).flatMap Prod.snd

section Flow

variable {log : List (Nat × Bytes)} {who who' : Nat → Bool}

theorem flow_concat (log : List (Nat × Bytes)) (who : Nat → Bool) (stage : Nat) (bytes : Bytes) :
    flow (log ++ [(stage, bytes)]) who = flow log who ++ if who stage then bytes else [] := by
  rw [flow, List.filter_append, List.flatMap_append, flow]
  cases hwho : who stage <;> simp [hwho]

theorem flow_congr (h : ∀ entry ∈ log, who entry.1 = who' entry.1) :
    flow log who = flow log who' := by
  rw [flow, flow, List.filter_congr h]

theorem flow_eq_nil (h : ∀ entry ∈ log, who entry.1 = false) : flow log who = [] := by
  have hnone : (log.filter fun entry ↦ who entry.1) = [] := by
    rw [List.filter_eq_nil_iff]
    exact fun entry hentry ↦ by simp [h entry hentry]
  rw [flow, hnone, List.flatMap_nil]

end Flow

/-- The pipes of the chain carry what is sent into them, in order. -/
structure Flows (p : Pipeline) (w₀ : World) (s : Handout) : Prop where
  senders : ∀ entry ∈ s.sent, entry.1 < s.got.length
  receivers : ∀ entry ∈ s.received, entry.1 < s.got.length
  fifo : ∀ i < s.got.length, i + 1 < p.stages.size →
    flow s.sent (p.sendsInto w₀ s.world.machine i) =
      flow s.received (· == i + 1) ++ s.world.machine.underWay (w₀.machine.pipes.size + i)

namespace Flows

variable {p : Pipeline} {w₀ : World} {held : List (Descriptor × Holding)} {s : Handout}

theorem begin (p : Pipeline) (w : World) : Flows p w (.begin p w) :=
  ⟨nofun, nofun, nofun⟩

theorem send (h : Flows p w₀ s) (hs : Intact p w₀ held s) (hw₀ : w₀.HoldsOpened) (stage : Nat)
    (bytes : Bytes) : Flows p w₀ (s.step (.send stage bytes)) := by
  cases hfd : s.number? (.output stage) with
  | none =>
      rwa [Handout.step_send_none hfd]
  | some fd =>
      have hfits := hs.fits_of_number? hfd
      rw [Handout.step_send hfd]
      refine ⟨fun entry hentry ↦ ?_, h.receivers, fun i hi hmore ↦ ?_⟩
      · rcases List.mem_append.1 hentry with hentry | hentry
        · exact h.senders entry hentry
        · obtain rfl := List.mem_singleton.1 hentry
          exact hfits
      · have hi : i < s.got.length := hi
        have hsame := s.world.machine.sameFiles_write s.world.table s.world.table fd bytes
        have hinto : p.sendsInto w₀ (s.world.write fd bytes).2.machine i =
            p.sendsInto w₀ s.world.machine i := p.sendsInto_congr hsame.isEnd i
        have hunder := Machine.underWay_write (hs.lt_size_pipes hi hmore) s.world.table
          s.world.table fd bytes
        simp only [hs.fileAt?_output_iff hw₀ hi hmore hfd] at hunder
        dsimp only
        rw [hinto, flow_concat, h.fifo i hi hmore, List.append_assoc]
        exact congrArg _ hunder.symm

theorem receive (h : Flows p w₀ s) (hs : Intact p w₀ held s) (hw₀ : w₀.HoldsOpened)
    (stage limit : Nat) : Flows p w₀ (s.step (.receive stage limit)) := by
  cases hfd : s.number? (.input stage) with
  | none =>
      rwa [Handout.step_receive_none hfd]
  | some fd =>
      have hfits := hs.fits_of_number? hfd
      rw [Handout.step_receive hfd]
      refine ⟨h.senders, fun entry hentry ↦ ?_, fun i hi hmore ↦ ?_⟩
      · rcases List.mem_append.1 hentry with hentry | hentry
        · exact h.receivers entry hentry
        · obtain rfl := List.mem_singleton.1 hentry
          exact hfits.1
      · have hi : i < s.got.length := hi
        have hsame := s.world.machine.sameFiles_read s.world.table s.world.table fd limit
        have hinto : p.sendsInto w₀ (s.world.read fd limit).2.machine i =
            p.sendsInto w₀ s.world.machine i := p.sendsInto_congr hsame.isEnd i
        have hunder := Machine.underWay_read (hs.lt_size_pipes hi hmore) s.world.table
          s.world.table fd limit
        simp only [hs.fileAt?_input_iff hw₀ hi hmore hfd] at hunder
        dsimp only
        rw [hinto, flow_concat, h.fifo i hi hmore, hunder, List.append_assoc]
        simp only [beq_iff_eq]
        rfl

/-- More than was sent and received before matters to nobody. -/
theorem congr {s' : Handout} (h : Flows p w₀ s) (hgot : s'.got = s.got)
    (hsent : s'.sent = s.sent) (hreceived : s'.received = s.received)
    (hpipes : s'.world.machine.pipes = s.world.machine.pipes)
    (hisEnd : ∀ pipe side file,
      s'.world.machine.isEnd pipe side file = s.world.machine.isEnd pipe side file) :
    Flows p w₀ s' := by
  refine ⟨?_, ?_, fun i hi hmore ↦ ?_⟩
  · rw [hsent, hgot]
    exact h.senders
  · rw [hreceived, hgot]
    exact h.receivers
  · rw [hgot] at hi
    rw [hsent, hreceived, p.sendsInto_congr hisEnd i, Machine.underWay_of_pipes hpipes]
    exact h.fifo i hi hmore

theorem drop (h : Flows p w₀ s) (stage : Nat) : Flows p w₀ (s.step (.drop stage)) := by
  cases hlive : s.live? stage with
  | none =>
      rwa [Handout.step_drop_none hlive]
  | some ends =>
      rw [Handout.step_drop hlive]
      refine h.congr rfl rfl rfl ?_ fun pipe side file ↦ ?_
      · rw [StageEnds.machine_release]
      · rw [StageEnds.machine_release]

theorem call_none {wiring : Wiring} {w : World} (h : Flows p w₀ s)
    (hnext : s.wiring.next s.world = (.ok none, wiring, w)) : Flows p w₀ s.call := by
  obtain ⟨-, rfl, rfl⟩ := Wiring.index_of_next_none hnext
  have hgot : s.call.got = s.got := (Handout.got_call hnext).trans (List.append_nil _)
  rw [Handout.call_eq hnext] at hgot ⊢
  exact h.congr hgot rfl rfl rfl fun _ _ _ ↦ rfl

/-- The last stage is not among those that have sent something before it is obtained. -/
theorem sendsInto_of_mem_sent (h : Flows p w₀ s) (hk : s.got.length < p.stages.size)
    {entry : Nat × Bytes} (hentry : entry ∈ s.sent) (m : Machine) (i : Nat) :
    p.sendsInto w₀ m i entry.1 = decide (entry.1 = i) := by
  have hlt := h.senders entry hentry
  rw [Bool.eq_iff_iff, Pipeline.sendsInto_iff, decide_eq_true_iff]
  exact or_iff_left fun hlast ↦ absurd hlast.1 (by omega)

/-- A stage that is obtained gets an empty pipe, and nobody has sent into it or received
from it yet. -/
theorem call_some {wiring : Wiring} {w : World} {ends : StageEnds} (h : Flows p w₀ s)
    (hs : Intact p w₀ held s)
    (hnext : s.wiring.next s.world = (.ok (some ends), wiring, w)) : Flows p w₀ s.call := by
  have hindex : s.wiring.index = s.got.length := congrArg Wiring.index hs.wiring
  have hcount : s.wiring.count = p.stages.size := congrArg Wiring.count hs.wiring
  have hk : s.got.length < p.stages.size := by
    obtain ⟨hne, -⟩ := Wiring.supplies_of_next hnext
    rw [hindex, hcount] at hne
    exact Nat.lt_of_le_of_ne hs.length_got_le hne
  have hlength : s.call.got.length = s.got.length + 1 := by
    rw [Handout.got_call hnext]
    exact List.length_append
  rw [Handout.call_eq hnext] at hlength ⊢
  refine ⟨fun entry hentry ↦ ?_, fun entry hentry ↦ ?_, fun i hi hmore ↦ ?_⟩
  · rw [hlength]
    exact Nat.lt_succ_of_lt (h.senders entry hentry)
  · rw [hlength]
    exact Nat.lt_succ_of_lt (h.receivers entry hentry)
  · rw [hlength] at hi
    dsimp only
    rcases Nat.lt_succ_iff_lt_or_eq.1 hi with hi | rfl
    · rw [Wiring.underWay_next hnext (hs.lt_size_pipes hi hmore), ← h.fifo i hi hmore]
      refine flow_congr fun entry hentry ↦ ?_
      rw [h.sendsInto_of_mem_sent hk hentry, h.sendsInto_of_mem_sent hk hentry]
    · have hsize : s.world.machine.pipes.size = w₀.machine.pipes.size + s.got.length := by
        rw [hs.turn.pipes]
        omega
      have hnew : s.wiring.index + 1 ≠ s.wiring.count := by
        rw [hindex, hcount]
        exact Nat.ne_of_lt hmore
      rw [← hsize, Wiring.underWay_next_new hnext hnew, flow_eq_nil, flow_eq_nil]
      · rfl
      · intro entry hentry
        have hlt := h.receivers entry hentry
        exact beq_eq_false_iff_ne.2 (by omega)
      · intro entry hentry
        have hlt := h.senders entry hentry
        rw [h.sendsInto_of_mem_sent hk hentry]
        exact decide_eq_false (Nat.ne_of_lt hlt)

theorem step (h : Flows p w₀ s) (hs : Intact p w₀ held s) (hw₀ : w₀.HoldsOpened) (move : Move)
    (hok : ∀ c ∈ (s.step move).calls, ∀ e, c.answer ≠ .error e) :
    Flows p w₀ (s.step move) := by
  cases move with
  | next =>
      rcases Handout.call_cases s with ⟨e, wiring, w, hnext⟩ | ⟨wiring, w, hnext⟩ |
        ⟨ends, wiring, w, hnext⟩
      · exact absurd rfl (hok _ (Handout.mem_calls_call hnext) e)
      · exact h.call_none hnext
      · exact h.call_some hs hnext
  | drop stage => exact h.drop stage
  | send stage bytes => exact h.send hs hw₀ stage bytes
  | receive stage limit => exact h.receive hs hw₀ stage limit
  | alter tree => exact h.congr rfl rfl rfl rfl fun _ _ _ ↦ rfl

end Flows

end PipeShell

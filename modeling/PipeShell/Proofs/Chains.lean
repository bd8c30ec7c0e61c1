import Mathlib
import PipeShell.Proofs.Flows

/-!
# Chains

The stages that a wiring hands out form one chain: the first one reads the input file and
the last one writes the output file, and in between each writes into a pipe that is made
at that very time and that the next one reads from.  It does not matter when stages are
dropped, what they send and receive and how the files change meanwhile.
-/

namespace PipeShell

/-! ## What is opened -/

/-- The endpoint for a redirection: it is inherited if there is none, and else the file
has been opened. -/
inductive Endpoint.Opened (path : Option String) (mode : OpenMode) (w : World) :
    Endpoint → World → Prop where
  | inherited (h : path = none) : Opened path mode w .inherited w
  | file {name : String} {fd : Descriptor} {w' : World} (h : path = some name)
      (hopen : w.openFile name mode = .ok (fd, w')) : Opened path mode w (.descriptor fd) w'

theorem Wiring.opened_of_openEnd {path : Option String} {purpose : Purpose} {w w' : World}
    {e : Endpoint} (h : openEnd path purpose w = .ok (e, w')) :
    Endpoint.Opened path purpose.mode w e w' := by
  cases path with
  | none =>
      cases h
      exact .inherited rfl
  | some name =>
      obtain ⟨fd, hopen, rfl⟩ := openEnd_eq_ok h
      exact .file rfl hopen

theorem Wiring.Supplies.opens {s s' : Wiring} {w w' : World} {ends : StageEnds}
    (h : s.Supplies w ends s' w') : ∃ w₁, s.nextInput w = .ok (ends.input, w₁) ∧
      if s.index + 1 = s.count then
        ends.stray = none ∧ Endpoint.Opened s.output (.write 0o644) w₁ ends.output w'
      else ∃ reader writer, w₁.pipe = .ok (reader, writer, w') ∧
        ends.output = .descriptor writer ∧ ends.stray = some reader := by
  cases h with
  | last hinput hlast houtput =>
      refine ⟨_, hinput, ?_⟩
      rw [if_pos hlast]
      exact ⟨rfl, opened_of_openEnd houtput⟩
  | piped hinput hmore hpipe =>
      refine ⟨_, hinput, ?_⟩
      rw [if_neg hmore]
      exact ⟨_, _, hpipe, rfl, rfl⟩

/-! ## What is asked for -/

def Event.opensFile : Event → Bool
  | .opened _ => true
  | _ => false

def Event.makesPipe : Event → Bool
  | .piped _ _ => true
  | _ => false

/-- So many files have been opened since, and so many pipes made. -/
structure World.Asked (w₀ : World) (files pipes : Nat) (w : World) : Prop where
  files : w.events.toList.countP Event.opensFile =
    w₀.events.toList.countP Event.opensFile + files
  pipes : w.events.toList.countP Event.makesPipe =
    w₀.events.toList.countP Event.makesPipe + pipes

namespace World.Asked

variable {w₀ w w' : World} {files pipes : Nat}

theorem refl (w : World) : w.Asked 0 0 w :=
  ⟨rfl, rfl⟩

theorem of_events (h : w₀.Asked files pipes w) (hevents : w'.events = w.events) :
    w₀.Asked files pipes w' := by
  obtain ⟨hfiles, hpipes⟩ := h
  exact ⟨by rw [hevents, hfiles], by rw [hevents, hpipes]⟩

theorem push (h : w₀.Asked files pipes w) {e : Event} (hevents : w'.events = w.events.push e) :
    w₀.Asked (files + e.opensFile.toNat) (pipes + e.makesPipe.toNat) w' := by
  obtain ⟨hfiles, hpipes⟩ := h
  constructor
  · rw [hevents, Array.toList_push, List.countP_append, hfiles, Nat.add_assoc]
    cases hopens : e.opensFile <;> simp [hopens]
  · rw [hevents, Array.toList_push, List.countP_append, hpipes, Nat.add_assoc]
    cases hmakes : e.makesPipe <;> simp [hmakes]

theorem close (h : w₀.Asked files pipes w) (fd : Descriptor) :
    w₀.Asked files pipes (w.close fd) := by
  unfold World.close
  split
  · exact h.push (e := .closed fd) rfl
  · exact h

theorem release (h : w₀.Asked files pipes w) (ends : StageEnds) :
    w₀.Asked files pipes (ends.release w) :=
  World.release_of_close (fun _ fd hw ↦ hw.close fd) ends h

theorem opened (h : w₀.Asked files pipes w) {path : Option String} {mode : OpenMode}
    {e : Endpoint} (hopened : Endpoint.Opened path mode w e w') :
    w₀.Asked (files + path.toList.length) pipes w' := by
  cases hopened with
  | inherited hpath =>
      rw [hpath]
      exact h
  | @file path fd _ hpath hopen =>
      obtain ⟨file, machine, -, -, rfl⟩ := openFile_eq_ok hopen
      rw [hpath]
      exact h.push (e := .opened fd) rfl

end World.Asked

/-! ## What the calls give -/

/-- A call obtains a stage.  The first stage has its input opened; the last one has its
output opened, and every other one has a pipe made, of which the wiring keeps the read
end. -/
structure Call.Obtains (c : Call) (p : Pipeline) (i : Nat) (ends : StageEnds) : Prop where
  answer : c.answer = .ok (some ends)
  opens : ∃ w, (if i = 0 then Endpoint.Opened p.input .read c.world ends.input w
      else w = c.world) ∧
    if i + 1 = p.stages.size then
      ends.stray = none ∧ Endpoint.Opened p.output (.write 0o644) w ends.output c.after
    else ∃ reader writer, w.pipe = .ok (reader, writer, c.after) ∧
      ends.output = .descriptor writer ∧ ends.stray = some reader

/-- How many files have been opened for so many stages. -/
def Pipeline.filesOpened (p : Pipeline) (count : Nat) : Nat :=
  if count = 0 then 0
  else p.input.toList.length + if count = p.stages.size then p.output.toList.length else 0

/-- Each call so far has obtained a stage, until there were no more, and nothing else has
been opened or made. -/
structure Answered (p : Pipeline) (w₀ : World) (s : Handout) : Prop where
  length : s.got.length = min s.calls.length p.stages.size
  calls : ∀ i c, s.calls[i]? = some c →
    (i < p.stages.size → ∃ ends, s.got[i]? = some ends ∧ c.Obtains p i ends) ∧
      (p.stages.size ≤ i → c.answer = .ok none)
  requests : w₀.Asked (p.filesOpened s.got.length) (min s.got.length (p.stages.size - 1)) s.world

namespace Answered

variable {p : Pipeline} {w₀ : World} {held : List (Descriptor × Holding)} {s s' : Handout}
  {wiring : Wiring} {w : World} {ends : StageEnds}

theorem begin (p : Pipeline) (w : World) : Answered p w (.begin p w) := by
  have hgot : (Handout.begin p w).got = [] := rfl
  have hcalls : (Handout.begin p w).calls = [] := rfl
  refine ⟨?_, fun i c hc ↦ ?_, ?_⟩
  · rw [hgot, hcalls, List.length_nil, List.length_nil, Nat.zero_min]
  · rw [hcalls] at hc
    cases hc
  · rw [hgot, List.length_nil, Nat.zero_min, Pipeline.filesOpened, if_pos rfl]
    exact .refl w

theorem congr (h : Answered p w₀ s) (hcalls : s'.calls = s.calls)
    (hrequests : ∀ {files pipes}, w₀.Asked files pipes s.world → w₀.Asked files pipes s'.world) :
    Answered p w₀ s' := by
  obtain ⟨hlength, hanswers, hasked⟩ := h
  have hgot : s'.got = s.got := by rw [Handout.got, hcalls, Handout.got]
  refine ⟨by rw [hgot, hcalls, hlength], ?_, ?_⟩
  · rw [hcalls, hgot]
    exact hanswers
  · rw [hgot]
    exact hrequests hasked

theorem call_none (h : Answered p w₀ s) (hs : Intact p w₀ held s)
    (hnext : s.wiring.next s.world = (.ok none, wiring, w)) : Answered p w₀ s.call := by
  obtain ⟨hindex, rfl, rfl⟩ := Wiring.index_of_next_none hnext
  have hgot : s.call.got = s.got := (Handout.got_call hnext).trans (List.append_nil _)
  have hlength : s.got.length = p.stages.size := by
    rw [hs.wiring] at hindex
    exact hindex
  have hle : p.stages.size ≤ s.calls.length := by
    have := h.length
    omega
  rw [Handout.call_eq hnext] at hgot ⊢
  refine ⟨?_, fun i c hc ↦ ?_, ?_⟩
  · rw [hgot, hlength, List.length_append]
    omega
  · rw [hgot]
    rcases getElem?_concat_eq_some.1 hc with hc | ⟨rfl, rfl⟩
    · exact h.calls i c hc
    · exact ⟨fun hlt ↦ absurd hlt (Nat.not_lt.2 hle), fun _ ↦ rfl⟩
  · rw [hgot]
    exact h.requests

/-- When the input of a stage has been taken, the input file has been opened. -/
theorem asked_nextInput {input : Endpoint} {w₁ : World}
    (h : w₀.Asked (p.filesOpened s.got.length) (min s.got.length (p.stages.size - 1)) s.world)
    (hs : Intact p w₀ held s) (hk : s.got.length < p.stages.size)
    (hinput : (Wiring.before p s.got.length s.wiring.carried).nextInput s.world =
      .ok (input, w₁)) :
    (if s.got.length = 0 then Endpoint.Opened p.input .read s.world input w₁
      else w₁ = s.world) ∧ w₀.Asked p.input.toList.length s.got.length w₁ := by
  have hmin : min s.got.length (p.stages.size - 1) = s.got.length := by omega
  rw [hmin] at h
  rcases hs.turn.holds with ⟨hcarried, hlength⟩ | ⟨fd, i, hcarried, hlength, -, -⟩
  · have hzero : s.got.length = 0 := hlength.resolve_right (Nat.ne_of_lt hk)
    rw [hcarried] at hinput
    have hinput : Wiring.openEnd p.input .reading s.world = .ok (input, w₁) := hinput
    rw [Pipeline.filesOpened, if_pos hzero] at h
    have hopened := Wiring.opened_of_openEnd hinput
    refine ⟨by rwa [if_pos hzero], ?_⟩
    have hasked := h.opened hopened
    rwa [Nat.zero_add] at hasked
  · have hne : s.got.length ≠ 0 := by omega
    rw [hcarried] at hinput
    cases hinput
    rw [Pipeline.filesOpened, if_neg hne, if_neg (Nat.ne_of_lt hk), Nat.add_zero] at h
    exact ⟨by rw [if_neg hne], h⟩

/-- A call asks for what its stage needs and for nothing else. -/
theorem obtains_call
    (h : w₀.Asked (p.filesOpened s.got.length) (min s.got.length (p.stages.size - 1)) s.world)
    (hs : Intact p w₀ held s)
    (hnext : s.wiring.next s.world = (.ok (some ends), wiring, w)) :
    Call.Obtains ⟨s.wiring, s.world, .ok (some ends), w⟩ p s.got.length ends ∧
      w₀.Asked (p.filesOpened (s.got.length + 1))
        (min (s.got.length + 1) (p.stages.size - 1)) w := by
  rw [hs.wiring] at hnext
  obtain ⟨hk, -⟩ := hs.turn.exists_served hnext
  obtain ⟨-, hsupplies⟩ := Wiring.supplies_of_next hnext
  have hfiles : p.filesOpened (s.got.length + 1) = p.input.toList.length +
      if s.got.length + 1 = p.stages.size then p.output.toList.length else 0 :=
    if_neg (Nat.succ_ne_zero _)
  rw [hfiles]
  obtain ⟨w₁, hinput, houtput⟩ := hsupplies.opens
  have houtput : if s.got.length + 1 = p.stages.size then
      ends.stray = none ∧ Endpoint.Opened p.output (.write 0o644) w₁ ends.output w
    else ∃ reader writer, w₁.pipe = .ok (reader, writer, w) ∧
      ends.output = .descriptor writer ∧ ends.stray = some reader := houtput
  obtain ⟨hopened, hasked⟩ := asked_nextInput h hs hk hinput
  refine ⟨⟨rfl, w₁, hopened, houtput⟩, ?_⟩
  split at houtput
  next hlast =>
    have hmin : min (s.got.length + 1) (p.stages.size - 1) = s.got.length := by omega
    rw [if_pos hlast, hmin]
    exact hasked.opened houtput.2
  next hmore =>
    have hmin : min (s.got.length + 1) (p.stages.size - 1) = s.got.length + 1 := by omega
    obtain ⟨reader, writer, hpipe, -⟩ := houtput
    obtain rfl : w = w₁.makePipe.2.2 := congrArg (·.2.2) (World.pipe_eq_ok hpipe)
    rw [if_neg hmore, hmin]
    exact hasked.push (e := .piped w₁.makePipe.1 w₁.makePipe.2.1) rfl

theorem call_some (h : Answered p w₀ s) (hs : Intact p w₀ held s)
    (hnext : s.wiring.next s.world = (.ok (some ends), wiring, w)) : Answered p w₀ s.call := by
  obtain ⟨hobtains, hasked⟩ := obtains_call h.requests hs hnext
  have hgot : s.call.got = s.got ++ [ends] := Handout.got_call hnext
  have hk : s.got.length < p.stages.size := by
    have hnext := hnext
    rw [hs.wiring] at hnext
    exact (hs.turn.exists_served hnext).1
  have hlength : s.calls.length = s.got.length := by
    have := h.length
    omega
  rw [Handout.call_eq hnext] at hgot ⊢
  refine ⟨?_, fun i c hc ↦ ?_, ?_⟩
  · rw [hgot, List.length_append, List.length_append, hlength]
    exact (Nat.min_eq_left hk).symm
  · rw [hgot]
    rcases getElem?_concat_eq_some.1 hc with hc | ⟨rfl, rfl⟩
    · obtain ⟨hobtained, hover⟩ := h.calls i c hc
      refine ⟨fun hi ↦ ?_, hover⟩
      obtain ⟨given, hgiven, hobtains⟩ := hobtained hi
      exact ⟨given, getElem?_concat_eq_some.2 (.inl hgiven), hobtains⟩
    · rw [hlength]
      exact ⟨fun _ ↦ ⟨ends, getElem?_concat_eq_some.2 (.inr ⟨rfl, rfl⟩), hobtains⟩,
        fun hle ↦ absurd hk (Nat.not_lt.2 hle)⟩
  · rw [hgot, List.length_append]
    exact hasked

theorem step (h : Answered p w₀ s) (hs : Intact p w₀ held s) (move : Move)
    (hok : ∀ c ∈ (s.step move).calls, ∀ e, c.answer ≠ .error e) :
    Answered p w₀ (s.step move) := by
  cases move with
  | next =>
      rcases Handout.call_cases s with ⟨e, wiring, w, hnext⟩ | ⟨wiring, w, hnext⟩ |
        ⟨ends, wiring, w, hnext⟩
      · exact absurd rfl (hok _ (Handout.mem_calls_call hnext) e)
      · exact h.call_none hs hnext
      · exact h.call_some hs hnext
  | drop stage =>
      cases hlive : s.live? stage with
      | none => rwa [Handout.step_drop_none hlive]
      | some ends =>
          rw [Handout.step_drop hlive]
          exact h.congr rfl fun hasked ↦ hasked.release ends
  | send stage bytes =>
      cases hfd : s.number? (.output stage) with
      | none => rwa [Handout.step_send_none hfd]
      | some fd =>
          rw [Handout.step_send hfd]
          exact h.congr rfl fun hasked ↦ hasked.of_events rfl
  | receive stage limit =>
      cases hfd : s.number? (.input stage) with
      | none => rwa [Handout.step_receive_none hfd]
      | some fd =>
          rw [Handout.step_receive hfd]
          exact h.congr rfl fun hasked ↦ hasked.of_events rfl
  | alter tree => exact h.congr rfl fun hasked ↦ hasked.of_events rfl

end Answered

/-! ## The chain -/

/-- The pipe between a stage and the next one. -/
structure Link (p : Pipeline) (w₀ : World) (s : Handout) (i : Nat) : Prop where
  /-- The read end is the wiring's, and then the next stage's. -/
  reader : ∀ fd, s.world.machine.fileAt? s.world.table fd =
    some (.pipe (w₀.machine.pipes.size + i) .reader) ↔ s.number? (s.reader i) = some fd
  /-- The write end is the stage's, unless the output file is one as well. -/
  writer : ∀ fd, s.world.machine.fileAt? s.world.table fd =
    some (.pipe (w₀.machine.pipes.size + i) .writer) ↔ s.number? (.output i) = some fd ∨
      p.Returns w₀ s.world.machine i ∧ s.number? (.output (p.stages.size - 1)) = some fd
  /-- No process has an end of the pipe. -/
  processes : ∀ q ∈ s.world.machine.processes, ∀ entry ∈ q.table.holdings, ∀ side,
    s.world.machine.isEnd (w₀.machine.pipes.size + i) side entry.2.file = false
  /-- What is sent into the pipe is received by the next stage or under way. -/
  flow : flow s.sent (p.sendsInto w₀ s.world.machine i) =
    flow s.received (· == i + 1) ++ s.world.machine.underWay (w₀.machine.pipes.size + i)
  /-- What the stage sends goes nowhere else. -/
  write : ∀ fd bytes, s.number? (.output i) = some fd → ∃ content,
    (s.world.write fd bytes).2 = { s.world with machine := { s.world.machine with
      pipes := s.world.machine.pipes.setIfInBounds (w₀.machine.pipes.size + i) content } }
  /-- The next stage reads what is under way; if that is nothing, it waits as long as
  someone may send more, and then it is at the end. -/
  read : ∀ fd limit, s.number? (.input (i + 1)) = some fd →
    let underWay := s.world.machine.underWay (w₀.machine.pipes.size + i)
    let open? := ∃ stage, p.sendsInto w₀ s.world.machine i stage = true ∧
      (s.number? (.output stage)).isSome
    (underWay ≠ [] → (s.world.read fd limit).1 = .data (underWay.take limit)) ∧
      (underWay = [] → open? → (s.world.read fd limit).1 = .blocked) ∧
      (underWay = [] → ¬ open? → (s.world.read fd limit).1 = .data [])

namespace Intact

variable {p : Pipeline} {w₀ : World} {held : List (Descriptor × Holding)} {s : Handout} {i : Nat}

theorem le_of_isEnd (h : Intact p w₀ held s) (hi : i < s.got.length)
    (hmore : i + 1 < p.stages.size) {side : PipeEnd} {file : FileId}
    (hend : s.world.machine.isEnd (w₀.machine.pipes.size + i) side file = true) :
    w₀.machine.opened.size ≤ file := by
  have hmade := h.turn.made i hi hmore
  cases side with
  | reader =>
      rw [(hmade.reader file).1 hend]
      exact Pipeline.le_pipeReader i
  | writer =>
      rcases hmade.writers file hend with rfl | rfl
      · exact Nat.le_succ_of_le (Pipeline.le_pipeReader i)
      · exact Pipeline.le_pipeReader _

theorem isEnd_process (h : Intact p w₀ held s) (hw₀ : w₀.HoldsOpened) (hi : i < s.got.length)
    (hmore : i + 1 < p.stages.size) {q : Process} (hq : q ∈ s.world.machine.processes)
    {entry : Descriptor × Holding} (hentry : entry ∈ q.table.holdings) (side : PipeEnd) :
    s.world.machine.isEnd (w₀.machine.pipes.size + i) side entry.2.file = false := by
  rw [h.processes] at hq
  have hold := hw₀.processes q hq entry hentry
  rw [← Bool.not_eq_true]
  exact fun hend ↦ absurd (h.le_of_isEnd hi hmore hend) (Nat.not_le.2 hold)

/-- Someone can still write into a pipe as long as a stage that sends into it is there. -/
theorem held_writer_iff (h : Intact p w₀ held s) (hw₀ : w₀.HoldsOpened)
    (hi : i < s.got.length) (hmore : i + 1 < p.stages.size) :
    s.world.machine.held s.world.table (w₀.machine.pipes.size + i) .writer = true ↔
      ∃ stage, p.sendsInto w₀ s.world.machine i stage = true ∧
        (s.number? (.output stage)).isSome := by
  rw [Machine.held_eq_true_iff]
  constructor
  · rintro (⟨entry, hentry, hend⟩ | ⟨q, hq, entry, hentry, hend⟩)
    · have hnew := h.le_of_isEnd hi hmore hend
      rw [h.turn.borrows.lends.eq] at hentry
      rcases List.mem_append.1 hentry with hentry | hentry
      · obtain ⟨o, ho, hfile⟩ := h.owned entry hentry
        have hpipe := (h.fileAt?_eq_pipe_iff hw₀ fun _ ↦ h.le_of_isEnd hi hmore).2
          ⟨o, _, ho, hfile, hend⟩
        rcases (h.fileAt?_writer_iff hw₀ hi hmore).1 hpipe with ho | ⟨hreturns, ho⟩
        · exact ⟨i, Pipeline.sendsInto_iff.2 (.inl rfl), by rw [ho]; rfl⟩
        · have hlast : p.stages.size - 1 + 1 = p.stages.size := by omega
          exact ⟨_, Pipeline.sendsInto_iff.2 (.inr ⟨hlast, hreturns⟩), by rw [ho]; rfl⟩
      · exact absurd hnew (Nat.not_le.2 (hw₀.shell entry hentry))
    · rw [h.isEnd_process hw₀ hi hmore hq hentry] at hend
      cases hend
  · rintro ⟨stage, hsends, hlive⟩
    obtain ⟨fd, ho⟩ := Option.isSome_iff_exists.1 hlive
    have hpipe := (h.fileAt?_output_iff hw₀ hi hmore ho).2 hsends
    obtain ⟨x, hget, hopened⟩ := Option.bind_eq_some_iff.1 hpipe
    exact .inl ⟨_, Table.mem_of_get? hget, Machine.isEnd_eq_true_iff.2 hopened⟩

theorem link (h : Intact p w₀ held s) (hflows : Flows p w₀ s) (hw₀ : w₀.HoldsOpened)
    (hi : i < s.got.length) (hmore : i + 1 < p.stages.size) : Link p w₀ s i := by
  refine ⟨fun fd ↦ h.fileAt?_reader_iff hw₀ hi hmore, fun fd ↦ h.fileAt?_writer_iff hw₀ hi hmore,
    fun q hq entry hentry side ↦ h.isEnd_process hw₀ hi hmore hq hentry side,
    hflows.fifo i hi hmore, fun fd bytes ho ↦ ?_, fun fd limit ho ↦ ?_⟩
  · have hpipe := (h.fileAt?_writer_iff hw₀ hi hmore).2 (.inl ho)
    obtain ⟨content, hwrite⟩ := Machine.exists_write_eq hpipe s.world.table bytes
    exact ⟨content, congrArg (fun machine ↦ { s.world with machine }) hwrite⟩
  · have hpipe := (h.fileAt?_input_iff hw₀ hi hmore ho).2 rfl
    have hreply := Machine.reply_read hpipe s.world.table limit
    have hheld := h.held_writer_iff hw₀ hi hmore
    have hreply : (s.world.read fd limit).1 = _ := hreply
    refine ⟨fun hunder ↦ ?_, fun hunder hopen ↦ ?_, fun hunder hopen ↦ ?_⟩
    · rw [hreply, if_neg hunder]
    · rw [hreply, if_pos hunder, if_pos (hheld.2 hopen)]
    · rw [hreply, if_pos hunder, if_neg (mt hheld.1 hopen)]

end Intact

end PipeShell

import PipeShell.Proofs.StageProcesses
import PipeShell.Proofs.StageTurns

/-!
# Handing out descriptors

A wiring is asked for one stage after another, and whoever asks may give up what a stage
got at any time, write and read through it, and change the files meanwhile.  As long as
no end of a pipe gets lost, every descriptor that is held more than in the beginning has
one owner: the wiring, which keeps the read end for the stage to come, or a stage that
has it as its input or as its output.
-/

namespace PipeShell

/-- What a write took of some bytes. -/
def WriteReply.taken (reply : WriteReply) (bytes : Bytes) : Bytes :=
  match reply with
  | .wrote count => bytes.take count
  | _ => []

theorem getElem?_concat_eq_some {α : Type u} {l : List α} {a b : α} {i : Nat} :
    (l ++ [a])[i]? = some b ↔ l[i]? = some b ∨ i = l.length ∧ a = b := by
  rcases Nat.lt_trichotomy i l.length with hlt | rfl | hlt
  · rw [List.getElem?_append_left hlt]
    exact ⟨.inl, fun h ↦ h.resolve_right fun heq ↦ Nat.ne_of_lt hlt heq.1⟩
  · simp
  · have hle : (l ++ [a]).length ≤ i := by
      rw [List.length_append]
      exact hlt
    rw [List.getElem?_eq_none hle, List.getElem?_eq_none (Nat.le_of_lt hlt)]
    simpa using fun heq ↦ absurd heq (Nat.ne_of_gt hlt)

/-! ## Sessions -/

/-- A call for the next stage: the wiring and the world in which it came, its answer, and
the world behind it. -/
structure Call where
  wiring : Wiring
  world : World
  answer : Except ExecError (Option StageEnds)
  after : World

/-- What the call gave for a stage. -/
def Call.ends? (c : Call) : Option StageEnds :=
  match c.answer with
  | .ok ends? => ends?
  | .error _ => none

/-- A wiring in use.  Stages are numbered in the order in which they were obtained; what
they have sent and received is kept with their numbers. -/
structure Handout where
  wiring : Wiring
  world : World
  calls : List Call
  dropped : List Nat
  sent : List (Nat × Bytes)
  received : List (Nat × Bytes)

/-- What can happen next. -/
inductive Move where
  | next
  | drop (stage : Nat)
  | send (stage : Nat) (bytes : Bytes)
  | receive (stage : Nat) (limit : Nat)
  | alter (tree : Tree)

/-- Who has a descriptor. -/
inductive Owner where
  | wiring
  | input (stage : Nat)
  | output (stage : Nat)
  deriving DecidableEq, Repr

namespace Handout

def begin (p : Pipeline) (w : World) : Handout :=
  ⟨.ofPipeline p, w, [], [], [], []⟩

/-- The stages obtained so far. -/
def got (s : Handout) : List StageEnds :=
  s.calls.filterMap Call.ends?

/-- What a stage got, unless that has been given up. -/
def live? (s : Handout) (stage : Nat) : Option StageEnds :=
  if stage ∈ s.dropped then none else s.got[stage]?

/-- The descriptor of an owner. -/
def number? (s : Handout) : Owner → Option Descriptor
  | .wiring => s.wiring.carried
  | .input stage => (s.live? stage).bind (·.input.fd?)
  | .output stage => (s.live? stage).bind (·.output.fd?)

/-- Asks for the next stage. -/
def call (s : Handout) : Handout :=
  let (answer, wiring, world) := s.wiring.next s.world
  { s with wiring, world, calls := s.calls ++ [⟨s.wiring, s.world, answer, world⟩] }

def step (s : Handout) : Move → Handout
  | .next => s.call
  | .drop stage =>
      match s.live? stage with
      | some ends => { s with world := ends.release s.world, dropped := stage :: s.dropped }
      | none => s
  | .send stage bytes =>
      match s.number? (.output stage) with
      | some fd =>
          let (reply, world) := s.world.write fd bytes
          { s with world, sent := s.sent ++ [(stage, reply.taken bytes)] }
      | none => s
  | .receive stage limit =>
      match s.number? (.input stage) with
      | some fd =>
          let (reply, world) := s.world.read fd limit
          { s with world, received := s.received ++ [(stage, reply.bytes)] }
      | none => s
  | .alter tree => { s with world := { s.world with machine := { s.world.machine with tree } } }

def run (s : Handout) (moves : List Move) : Handout :=
  moves.foldl step s

variable {s : Handout} {wiring : Wiring} {w : World} {ends : StageEnds} {e : ExecError}
  {stage i : Nat} {fd : Descriptor}

theorem step_drop (hlive : s.live? stage = some ends) : s.step (.drop stage) =
    { s with world := ends.release s.world, dropped := stage :: s.dropped } := by
  simp only [step, hlive]

theorem step_drop_none (hlive : s.live? stage = none) : s.step (.drop stage) = s := by
  simp only [step, hlive]

theorem step_send {bytes : Bytes} (hfd : s.number? (.output stage) = some fd) :
    s.step (.send stage bytes) = { s with
      world := (s.world.write fd bytes).2
      sent := s.sent ++ [(stage, (s.world.write fd bytes).1.taken bytes)] } := by
  simp only [step, hfd]

theorem step_send_none {bytes : Bytes} (hfd : s.number? (.output stage) = none) :
    s.step (.send stage bytes) = s := by
  simp only [step, hfd]

theorem step_receive {limit : Nat} (hfd : s.number? (.input stage) = some fd) :
    s.step (.receive stage limit) = { s with
      world := (s.world.read fd limit).2
      received := s.received ++ [(stage, (s.world.read fd limit).1.bytes)] } := by
  simp only [step, hfd]

theorem step_receive_none {limit : Nat} (hfd : s.number? (.input stage) = none) :
    s.step (.receive stage limit) = s := by
  simp only [step, hfd]

theorem run_append_singleton (s : Handout) (moves : List Move) (move : Move) :
    s.run (moves ++ [move]) = (s.run moves).step move := by
  rw [run, List.foldl_append]
  rfl

theorem call_eq {answer : Except ExecError (Option StageEnds)}
    (hnext : s.wiring.next s.world = (answer, wiring, w)) :
    s.call = { s with
      wiring, world := w, calls := s.calls ++ [⟨s.wiring, s.world, answer, w⟩] } := by
  rw [call, hnext]

theorem mem_calls_call {answer : Except ExecError (Option StageEnds)}
    (hnext : s.wiring.next s.world = (answer, wiring, w)) :
    ⟨s.wiring, s.world, answer, w⟩ ∈ (s.step .next).calls := by
  rw [step, call_eq hnext]
  exact List.mem_append_right _ List.mem_cons_self

theorem call_cases (s : Handout) :
    (∃ e wiring w, s.wiring.next s.world = (.error e, wiring, w)) ∨
      (∃ wiring w, s.wiring.next s.world = (.ok none, wiring, w)) ∨
      ∃ ends wiring w, s.wiring.next s.world = (.ok (some ends), wiring, w) := by
  obtain ⟨answer, wiring, w, hnext⟩ : ∃ answer wiring w,
      s.wiring.next s.world = (answer, wiring, w) := ⟨_, _, _, rfl⟩
  match answer with
  | .error e => exact .inl ⟨e, wiring, w, hnext⟩
  | .ok none => exact .inr (.inl ⟨wiring, w, hnext⟩)
  | .ok (some ends) => exact .inr (.inr ⟨ends, wiring, w, hnext⟩)

theorem got_call {answer : Except ExecError (Option StageEnds)}
    (hnext : s.wiring.next s.world = (answer, wiring, w)) :
    s.call.got = s.got ++ (Call.ends? ⟨s.wiring, s.world, answer, w⟩).toList := by
  rw [call_eq hnext, got, List.filterMap_append]
  cases h : Call.ends? ⟨s.wiring, s.world, answer, w⟩ <;> simp [got, h]

theorem step_of_ne {move : Move} (hmove : move ≠ .next) :
    (s.step move).wiring = s.wiring ∧ (s.step move).calls = s.calls := by
  unfold step
  split
  · exact absurd rfl hmove
  · split <;> exact ⟨rfl, rfl⟩
  · split <;> exact ⟨rfl, rfl⟩
  · split <;> exact ⟨rfl, rfl⟩
  · exact ⟨rfl, rfl⟩

theorem calls_subset_step (s : Handout) (move : Move) : s.calls ⊆ (s.step move).calls := by
  by_cases hmove : move = .next
  · subst hmove
    exact List.subset_append_left _ _
  · rw [(step_of_ne hmove).2]
    exact fun _ hc ↦ hc

theorem lt_of_live? (h : s.live? stage = some ends) : stage < s.got.length := by
  unfold live? at h
  split at h
  · cases h
  · exact (List.getElem?_eq_some_iff.1 h).1

theorem exists_live?_of_input (h : s.number? (.input stage) = some fd) :
    ∃ ends, s.live? stage = some ends ∧ ends.input = .descriptor fd := by
  obtain ⟨ends, hlive, hfd⟩ := Option.bind_eq_some_iff.1 h
  exact ⟨ends, hlive, Endpoint.fd?_eq_some.1 hfd⟩

theorem exists_live?_of_output (h : s.number? (.output stage) = some fd) :
    ∃ ends, s.live? stage = some ends ∧ ends.output = .descriptor fd := by
  obtain ⟨ends, hlive, hfd⟩ := Option.bind_eq_some_iff.1 h
  exact ⟨ends, hlive, Endpoint.fd?_eq_some.1 hfd⟩

theorem live?_drop (hlive : s.live? stage = some ends) (i : Nat) :
    (s.step (.drop stage)).live? i = if i = stage then none else s.live? i := by
  rw [step_drop hlive]
  by_cases hi : i = stage
  · simp [live?, hi]
  · simp [live?, got, hi]

/-- Who drops a stage gives up its two descriptors and no other. -/
theorem number?_drop (hlive : s.live? stage = some ends) (o : Owner) :
    (s.step (.drop stage)).number? o =
      if o = .input stage ∨ o = .output stage then none else s.number? o := by
  have hlive' := live?_drop hlive
  cases o with
  | wiring => simp [step_drop hlive, number?]
  | input i =>
      rw [number?, hlive']
      by_cases hi : i = stage <;> simp [hi, number?]
  | output i =>
      rw [number?, hlive']
      by_cases hi : i = stage <;> simp [hi, number?]

theorem live?_call (hnext : s.wiring.next s.world = (.ok (some ends), wiring, w))
    (hdropped : ∀ i ∈ s.dropped, i < s.got.length) (i : Nat) :
    s.call.live? i = if i = s.got.length then some ends else s.live? i := by
  have hgot : s.call.got = s.got ++ [ends] := got_call hnext
  have hdrop : s.call.dropped = s.dropped := by rw [call_eq hnext]
  rw [live?, hgot, hdrop]
  by_cases hi : i = s.got.length
  · have hlive : s.got.length ∉ s.dropped := fun hmem ↦ Nat.lt_irrefl _ (hdropped _ hmem)
    rw [hi, if_neg hlive, if_pos rfl, List.getElem?_concat_length]
  · rw [if_neg hi, live?]
    split
    · rfl
    · rw [List.getElem?_append]
      split
      · rfl
      · rw [List.getElem?_eq_none (by simp; omega), List.getElem?_eq_none (by omega)]

/-- A stage that is obtained has its two descriptors, and the wiring has the stray one. -/
theorem number?_call (hnext : s.wiring.next s.world = (.ok (some ends), wiring, w))
    (hdropped : ∀ i ∈ s.dropped, i < s.got.length) (o : Owner) :
    s.call.number? o =
      if o = .wiring then wiring.carried
      else if o = .input s.got.length then ends.input.fd?
      else if o = .output s.got.length then ends.output.fd?
      else s.number? o := by
  have hlive := live?_call hnext hdropped
  cases o with
  | wiring => simp [call_eq hnext, number?]
  | input i =>
      rw [number?, hlive]
      by_cases hi : i = s.got.length <;> simp [hi, number?]
  | output i =>
      rw [number?, hlive]
      by_cases hi : i = s.got.length <;> simp [hi, number?]

end Handout

/-- What an endpoint that is given up stands for is gone. -/
theorem World.Borrows.giveUp {w₀ w : World} {held : List (Descriptor × Holding)}
    (h : w₀.Borrows held w) {e : Endpoint}
    (he : ∀ fd, e.fd? = some fd → fd ∈ held.map Prod.fst) :
    w₀.Borrows (held.filter fun entry ↦ e.fd? != some entry.1) (e.release w) := by
  cases e with
  | inherited =>
      have hall : ∀ entry ∈ held, (Endpoint.inherited.fd? != some entry.1) = true := by
        intro entry _
        rfl
      rw [List.filter_eq_self.2 hall]
      exact h
  | descriptor fd =>
      have hsame : (fun entry : Descriptor × Holding ↦ some fd != some entry.1) =
          fun entry ↦ entry.1 != fd := by
        funext entry
        rw [bne_comm]
        rfl
      have hclosed := h.close (he fd rfl)
      rw [← hsame] at hclosed
      exact hclosed

/-- What is still held when a stage is given up. -/
def StageEnds.leave (ends : StageEnds) (held : List (Descriptor × Holding)) :
    List (Descriptor × Holding) :=
  (held.filter fun entry ↦ ends.input.fd? != some entry.1).filter
    fun entry ↦ ends.output.fd? != some entry.1

theorem StageEnds.mem_leave {ends : StageEnds} {held : List (Descriptor × Holding)}
    {entry : Descriptor × Holding} : entry ∈ ends.leave held ↔
      entry ∈ held ∧ ends.input.fd? ≠ some entry.1 ∧ ends.output.fd? ≠ some entry.1 := by
  simp only [leave, List.mem_filter, bne_iff_ne, and_assoc]

/-! ## Owners -/

/-- The file that an owner's descriptor stands for, when so many stages have been
obtained. -/
def Owner.file? (p : Pipeline) (first count : Nat) : Owner → Option FileId
  | .wiring => p.stageInput first count
  | .input stage => p.stageInput first stage
  | .output stage => p.stageOutput first stage

/-- The stage of an owner has been obtained, or is still to come for the wiring. -/
def Owner.Fits (p : Pipeline) (count : Nat) : Owner → Prop
  | .wiring => count < p.stages.size
  | .input stage => stage < count ∧ stage < p.stages.size
  | .output stage => stage < count

theorem Owner.file?_inj {p : Pipeline} {first count : Nat} {o o' : Owner} {file : FileId}
    (ho : o.Fits p count) (ho' : o'.Fits p count)
    (hfile : o.file? p first count = some file) (hfile' : o'.file? p first count = some file) :
    o = o' := by
  cases o with
  | wiring =>
      cases o' with
      | wiring => rfl
      | input j => exact absurd (Pipeline.stageInput_inj hfile' hfile) (Nat.ne_of_lt ho'.1)
      | output j => exact absurd hfile' (Pipeline.stageInput_ne_stageOutput hfile ho)
  | input i =>
      cases o' with
      | wiring => exact absurd (Pipeline.stageInput_inj hfile hfile') (Nat.ne_of_lt ho.1)
      | input j => rw [Pipeline.stageInput_inj hfile hfile']
      | output j => exact absurd hfile' (Pipeline.stageInput_ne_stageOutput hfile ho.2)
  | output i =>
      cases o' with
      | wiring => exact absurd hfile (Pipeline.stageInput_ne_stageOutput hfile' ho')
      | input j => exact absurd hfile (Pipeline.stageInput_ne_stageOutput hfile' ho'.2)
      | output j => rw [Pipeline.stageOutput_inj hfile hfile']

/-- Everything held more than in the beginning has one owner, and what the wiring keeps
is handed on. -/
structure Intact (p : Pipeline) (w₀ : World) (held : List (Descriptor × Holding))
    (s : Handout) : Prop where
  wiring : s.wiring = .before p s.got.length s.wiring.carried
  turn : p.AtTurn w₀ s.got.length s.wiring.carried held s.world
  processes : s.world.machine.processes = w₀.machine.processes
  dropped : ∀ i ∈ s.dropped, i < s.got.length
  owns : ∀ o fd, s.number? o = some fd → ∃ file,
    o.file? p w₀.machine.opened.size s.got.length = some file ∧ (fd, ⟨file, true⟩) ∈ held
  owned : ∀ entry ∈ held, ∃ o, s.number? o = some entry.1 ∧
    o.file? p w₀.machine.opened.size s.got.length = some entry.2.file
  linked : ∀ i a b, s.got[i]? = some a → s.got[i + 1]? = some b →
    ∃ fd, a.stray = some fd ∧ b.input = .descriptor fd
  last : ∀ i a, s.got[i]? = some a → i + 1 = s.got.length → s.wiring.carried = a.stray

namespace Intact

variable {p : Pipeline} {w₀ : World} {held : List (Descriptor × Holding)} {s s' : Handout}
  {o o' : Owner} {fd : Descriptor}

theorem begin (p : Pipeline) {w : World} (hw : w.Sound) : Intact p w [] (.begin p w) := by
  refine ⟨rfl, .zero p hw, rfl, nofun, fun o fd hfd ↦ ?_, nofun, nofun, nofun⟩
  cases o <;> cases hfd

theorem length_got_le (h : Intact p w₀ held s) : s.got.length ≤ p.stages.size :=
  h.turn.le_size

theorem fits_of_number? (h : Intact p w₀ held s) (ho : s.number? o = some fd) :
    o.Fits p s.got.length := by
  have hle := h.length_got_le
  cases o with
  | wiring =>
      rcases h.turn.holds with ⟨hnone, -⟩ | ⟨-, -, -, -, hmore, -⟩
      · exact nomatch hnone.symm.trans ho
      · exact hmore
  | input i =>
      obtain ⟨ends, hlive, -⟩ := Handout.exists_live?_of_input ho
      have hi := Handout.lt_of_live? hlive
      exact ⟨hi, Nat.lt_of_lt_of_le hi hle⟩
  | output i =>
      obtain ⟨ends, hlive, -⟩ := Handout.exists_live?_of_output ho
      exact Handout.lt_of_live? hlive

/-- Two owners never have the same descriptor. -/
theorem owner_unique (h : Intact p w₀ held s) (ho : s.number? o = some fd)
    (ho' : s.number? o' = some fd) : o = o' := by
  obtain ⟨file, hfile, hmem⟩ := h.owns o fd ho
  obtain ⟨file', hfile', hmem'⟩ := h.owns o' fd ho'
  have hget := h.turn.borrows.lends.get? hmem
  rw [h.turn.borrows.lends.get? hmem'] at hget
  obtain rfl : file' = file := congrArg Holding.file (Option.some.inj hget)
  exact Owner.file?_inj (h.fits_of_number? ho) (h.fits_of_number? ho') hfile hfile'

/-! ## Steps that open nothing -/

/-- Reading, writing and changes of the files leave all owners what they have. -/
theorem congr (h : Intact p w₀ held s) (hwiring : s'.wiring = s.wiring)
    (hcalls : s'.calls = s.calls) (hdropped : s'.dropped = s.dropped)
    (hfiles : s.world.machine.SameFiles s'.world.machine)
    (htable : s'.world.table = s.world.table) (hevents : s'.world.events = s.world.events) :
    Intact p w₀ held s' := by
  obtain ⟨wiring, w, calls, dropped, sent, received⟩ := s'
  dsimp only at hwiring hcalls hdropped
  subst hwiring hcalls hdropped
  obtain ⟨hwiring, hturn, hprocesses, hdropped, howns, howned, hlinked, hlast⟩ := h
  have hsound := hturn.sound.of_sameFiles hfiles (by rw [htable]; exact fun _ h ↦ h)
  have hborrows : w₀.Borrows held w := by
    obtain ⟨hlends, hreplays⟩ := hturn.borrows
    exact ⟨by rwa [htable], by rwa [hevents]⟩
  exact ⟨hwiring, hturn.congr hsound hborrows hfiles.opened hfiles.pipes hfiles.isEnd
    fun _ _ _ _ hmem ↦ hmem, hfiles.processes.trans hprocesses, hdropped, howns, howned, hlinked,
    hlast⟩

/-! ## Steps that change owners -/

section Drop

variable {ends : StageEnds} {stage : Nat}

theorem number?_of_live? (hlive : s.live? stage = some ends) :
    s.number? (.input stage) = ends.input.fd? ∧ s.number? (.output stage) = ends.output.fd? := by
  simp [Handout.number?, hlive]

/-- Others keep what they have when a stage is given up. -/
theorem mem_leave (h : Intact p w₀ held s) (hlive : s.live? stage = some ends) {x : Holding}
    (hinput : o ≠ .input stage) (houtput : o ≠ .output stage) (ho : s.number? o = some fd)
    (hmem : (fd, x) ∈ held) : (fd, x) ∈ ends.leave held := by
  obtain ⟨hin, hout⟩ := number?_of_live? hlive
  exact StageEnds.mem_leave.2 ⟨hmem, fun heq ↦ hinput (h.owner_unique ho (hin.trans heq)),
    fun heq ↦ houtput (h.owner_unique ho (hout.trans heq))⟩

theorem borrows_release (h : Intact p w₀ held s) (hlive : s.live? stage = some ends) :
    w₀.Borrows (ends.leave held) (ends.release s.world) := by
  obtain ⟨hin, hout⟩ := number?_of_live? hlive
  have hborrows := h.turn.borrows.giveUp (e := ends.input) fun fd hfd ↦ by
    obtain ⟨file, -, hmem⟩ := h.owns _ fd (hin.trans hfd)
    exact List.mem_map_of_mem hmem
  refine hborrows.giveUp (e := ends.output) fun fd hfd ↦ ?_
  obtain ⟨file, -, hmem⟩ := h.owns _ fd (hout.trans hfd)
  have hne : ends.input.fd? ≠ some fd := fun heq ↦
    nomatch h.owner_unique (hin.trans heq) (hout.trans hfd)
  exact List.mem_map.2 ⟨_, List.mem_filter.2 ⟨hmem, bne_iff_ne.2 hne⟩, rfl⟩

theorem drop_live (h : Intact p w₀ held s) (hlive : s.live? stage = some ends) :
    Intact p w₀ (ends.leave held) (s.step (.drop stage)) := by
  obtain ⟨hin, hout⟩ := number?_of_live? hlive
  have hnumber := Handout.number?_drop hlive
  rw [Handout.step_drop hlive] at hnumber ⊢
  refine ⟨h.wiring, h.turn.congr (h.turn.sound.release ends) (h.borrows_release hlive) ?_ ?_ ?_ ?_,
    ?_, ?_, ?_, ?_, h.linked, h.last⟩
  · rw [StageEnds.machine_release]
  · rw [StageEnds.machine_release]
  · intro pipe side file
    rw [StageEnds.machine_release]
  · intro fd i hcarried _ hmem
    exact h.mem_leave hlive (o := .wiring) nofun nofun hcarried hmem
  · rw [StageEnds.machine_release]
    exact h.processes
  · intro i hi
    rcases List.mem_cons.1 hi with rfl | hi
    · exact (Handout.lt_of_live? hlive : i < s.got.length)
    · exact h.dropped i hi
  · intro o fd ho
    rw [hnumber] at ho
    split at ho
    · cases ho
    next hother =>
      obtain ⟨hinput, houtput⟩ := not_or.1 hother
      obtain ⟨file, hfile, hmem⟩ := h.owns o fd ho
      exact ⟨file, hfile, h.mem_leave hlive hinput houtput ho hmem⟩
  · intro entry hentry
    obtain ⟨hentry, hne_in, hne_out⟩ := StageEnds.mem_leave.1 hentry
    obtain ⟨o, ho, hfile⟩ := h.owned entry hentry
    refine ⟨o, ?_, hfile⟩
    rw [hnumber, if_neg, ho]
    rintro (rfl | rfl)
    · exact hne_in (hin.symm.trans ho)
    · exact hne_out (hout.symm.trans ho)

theorem drop (h : Intact p w₀ held s) (stage : Nat) :
    ∃ held', Intact p w₀ held' (s.step (.drop stage)) := by
  cases hlive : s.live? stage with
  | none =>
      rw [Handout.step_drop_none hlive]
      exact ⟨held, h⟩
  | some ends => exact ⟨_, h.drop_live hlive⟩

end Drop

/-- A call that does nothing leaves all owners what they have. -/
theorem call_idle {answer : Except ExecError (Option StageEnds)} (h : Intact p w₀ held s)
    (hnext : s.wiring.next s.world = (answer, s.wiring, s.world))
    (hends : Call.ends? ⟨s.wiring, s.world, answer, s.world⟩ = none) :
    Intact p w₀ held s.call := by
  have hgot : s.call.got = s.got := by
    rw [Handout.got_call hnext, hends]
    exact List.append_nil _
  rw [Handout.call_eq hnext] at hgot ⊢
  have hlive : ∀ i, ({ s with calls := s.calls ++ [⟨s.wiring, s.world, answer, s.world⟩] } :
      Handout).live? i = s.live? i := fun i ↦ by rw [Handout.live?, hgot, Handout.live?]
  have hnumber : ∀ o, ({ s with calls := s.calls ++ [⟨s.wiring, s.world, answer, s.world⟩] } :
      Handout).number? o = s.number? o := fun o ↦ by
    cases o <;> simp only [Handout.number?, hlive]
  obtain ⟨hwiring, hturn, hprocesses, hdropped, howns, howned, hlinked, hlast⟩ := h
  refine ⟨?_, ?_, hprocesses, ?_, ?_, ?_, ?_, ?_⟩
  all_goals simp only [hgot, hnumber]
  all_goals assumption

theorem call_none {wiring : Wiring} {w : World} (h : Intact p w₀ held s)
    (hnext : s.wiring.next s.world = (.ok none, wiring, w)) : Intact p w₀ held s.call := by
  obtain ⟨-, rfl, rfl⟩ := Wiring.index_of_next_none hnext
  exact h.call_idle hnext rfl

section Call

variable {wiring : Wiring} {w : World} {ends : StageEnds}
  {inputHeld outputHeld strayHeld new : List (Descriptor × Holding)}

end Call

/-! ## Any step -/

end Intact

end PipeShell

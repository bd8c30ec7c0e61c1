import PipeShell.Proofs.LineEffects
import PipeShell.Proofs.Starting

/-!
# Diagnostics with a limit

Two runs of a script are compared, one of which keeps only so many bytes of what is told.
Running a pipeline does not look at what is kept of its reports, so up to the report that
ends the limited run both do the same, and what has been kept by then is the front of what
the other run tells.
-/

namespace PipeShell

namespace Diagnostics

/-- The diagnostics if only so many bytes had been kept from the beginning. -/
def cut (room : Nat) : Diagnostics → Diagnostics
  | .kept bytes none => .kept (bytes.take room) (some (room - bytes.length))
  | d => d

theorem cut_unlimited (room : Nat) : unlimited.cut room = limited room := by
  simp [unlimited, limited, cut]

/-- Whatever a limit has left, it has been one on all that has been kept. -/
theorem kept_eq_cut (bytes : Bytes) (left : Nat) :
    kept bytes (some left) = (kept bytes none).cut (bytes.length + left) := by
  rw [cut, List.take_of_length_le (Nat.le_add_right _ _), Nat.add_sub_cancel_left]

theorem write_cut (room : Nat) (bytes : Bytes) (w : World) (text : String) :
    ((kept bytes none).cut room).write w text =
      (if (encode text).length ≤ room - bytes.length then .ok () else .error full,
        (kept (bytes ++ encode text) none).cut room, w) := by
  simp [cut, write, List.take_append, Nat.sub_sub]

/-- The limit has been reached, and what is kept is the front of the other diagnostics. -/
structure FullFront (room : Nat) (d d' : Diagnostics) : Prop where
  full : d.bytes.length = room
  front : d.bytes <+: d'.bytes

theorem fullFront_cut {room : Nat} {bytes : Bytes} (h : room ≤ bytes.length) (more : Bytes) :
    FullFront room ((kept bytes none).cut room) (kept (bytes ++ more) none) := by
  constructor
  · change (bytes.take room).length = room
    rw [List.length_take, Nat.min_eq_left h]
  · exact (List.take_prefix room bytes).trans (List.prefix_append bytes more)

theorem FullFront.trans {room : Nat} {d d' d'' : Diagnostics} (h : FullFront room d d')
    (hmore : d'.bytes <+: d''.bytes) : FullFront room d d'' :=
  ⟨h.full, h.front.trans hmore⟩

theorem FullFront.bytes_eq {room : Nat} {d d' : Diagnostics} (h : FullFront room d d') :
    d.bytes = d'.bytes.take room := by
  have heq := List.prefix_iff_eq_take.1 h.front
  rw [h.full] at heq
  exact heq

end Diagnostics

namespace Pipeline

variable {sched : Scheduler}

theorem collect_cut (room index : Nat) (outcome : ExecOutcome) (b : Bytes) (w : World)
    (l : List (Stage × Pid)) :
    collect sched index outcome ((Diagnostics.kept b none).cut room) w l =
      ((collect sched index outcome (.kept b none) w l).1,
        (collect sched index outcome (.kept b none) w l).2.1.cut room,
        (collect sched index outcome (.kept b none) w l).2.2) := by
  induction l generalizing index outcome b w with
  | nil => rfl
  | cons stage rest ih =>
      obtain ⟨stage, pid⟩ := stage
      rw [collect, collect]
      dsimp only
      cases report? stage.program index (w.await sched pid).1 with
      | none => exact ih _ _ _ _
      | some text =>
          dsimp only
          rw [Diagnostics.write_cut]
          exact ih _ _ _ _

/-- A limit on the diagnostics changes nothing in a run but what is kept of them. -/
theorem execute_cut (p : Pipeline) (room : Nat) (b : Bytes) (w : World) :
    p.execute sched ((Diagnostics.kept b none).cut room) w =
      ((p.execute sched (.kept b none) w).1, (p.execute sched (.kept b none) w).2.1.cut room,
        (p.execute sched (.kept b none) w).2.2) := by
  cases hfailure : (p.start w).failure with
  | none =>
      rw [execute_of_none hfailure, execute_of_none hfailure]
      exact collect_cut room 0 .ok b _ _
  | some e =>
      rw [execute_of_some hfailure, execute_of_some hfailure, abandon,
        Diagnostics.write_cut]
      rfl

theorem execute_limited (p : Pipeline) (bytes : Bytes) (left : Nat) (w : World) :
    (p.execute sched (.kept bytes (some left)) w).1 = (p.execute sched .unlimited w).1 ∧
      (p.execute sched (.kept bytes (some left)) w).2.2 =
        (p.execute sched .unlimited w).2.2 := by
  rw [Diagnostics.kept_eq_cut, execute_cut, execute_kept]
  exact ⟨rfl, rfl⟩

end Pipeline

/-! ## One line -/

/-- What a line does in the world. -/
inductive Deed where
  /-- A pipeline has been run, with this outcome. -/
  | ran (p : Pipeline) (outcome : ExecOutcome) (after : World)
  /-- A `cd` has been carried out, with this outcome. -/
  | moved (directory : String) (outcome : Outcome) (after : World)

def Deed.after : Deed → World
  | .ran _ _ after => after
  | .moved _ _ after => after

namespace Session

variable {σ : Type u}

/-- The session if only so many bytes of its diagnostics had been kept. -/
def cut (room : Nat) (s : Session σ) : Session σ :=
  { s with diagnostics := s.diagnostics.cut room }

theorem behindReading_cut (room : Nat) (s : Session σ) (reader : CommandReader)
    (stream : TokenStream (σ × World)) (w : World) :
    (s.cut room).behindReading reader stream w =
      (s.behindReading reader stream w).cut room := rfl

theorem bytes_cut {s : Session σ} {b : Bytes} (h : s.diagnostics = .kept b none) (room : Nat) :
    (s.cut room).diagnostics.bytes = s.diagnostics.bytes.take room := by
  rw [cut, h]
  rfl

/-- What the next line of a session does. -/
def deed? [ScriptSource σ] (sched : Scheduler) (s : Session σ) : Option Deed :=
  let (command, reader, stream) := s.reader.read s.stream
  let (outcome, w) := command.settle stream.source.2
  match command, (s.behindReading reader stream w).tellRejected stream.takeRejected.1 with
  | .changeDirectory directory, _ => some (.moved directory outcome w)
  | .run p, (.ok (), s) =>
      let (outcome, _, w) := p.execute sched s.diagnostics s.world
      some (.ran p outcome w)
  | _, _ => none

/-- What at most so many lines of a session do, in order. -/
def deeds [ScriptSource σ] (sched : Scheduler) (lines : Nat) (s : Session σ) : List Deed :=
  match lines with
  | 0 => []
  | left + 1 =>
      (s.deed? sched).toList ++
        match s.step sched with
        | (some _, _) => []
        | (none, s) => s.deeds sched left

/-! ## What a line does is all that happens to the world -/

theorem tell_kept {s : Session σ} {b : Bytes} (h : s.diagnostics = .kept b none)
    (text : String) :
    s.tell text = (.ok (), { s with diagnostics := .kept (b ++ encode text) none }) := by
  simp only [tell, h, Diagnostics.write]
  rfl

theorem tell_of_kept {s : Session σ} {b : Bytes} {left : Option Nat}
    (h : s.diagnostics = .kept b left) (text : String) :
    ∃ result b' left', s.tell text = (result, { s with diagnostics := .kept b' left' }) := by
  cases left with
  | none => exact ⟨_, _, _, tell_kept h text⟩
  | some room =>
      refine ⟨if (encode text).length ≤ room then .ok () else .error Diagnostics.full,
        b ++ (encode text).take room, some (room - (encode text).length), ?_⟩
      simp only [tell, h, Diagnostics.write]
      rfl

theorem tellRejected_of_kept {s : Session σ} {b : Bytes} {left : Option Nat}
    (h : s.diagnostics = .kept b left) (errors : List LineError) :
    ∃ result b' left',
      s.tellRejected errors = (result, { s with diagnostics := .kept b' left' }) := by
  induction errors generalizing s b left with
  | nil => exact ⟨.ok (), b, left, by rw [tellRejected, ← h]⟩
  | cons e rest ih =>
      obtain ⟨result, b', left', htell⟩ := tell_of_kept h s!"lex error: {e.message}\n"
      rw [tellRejected, htell]
      cases result with
      | error f => exact ⟨.error f, b', left', rfl⟩
      | ok _ => exact ih rfl

theorem world_carryOut (sched : Scheduler) {s : Session σ} {b : Bytes} {left : Option Nat}
    (h : s.diagnostics = .kept b left) {outcome : Outcome} (hrun : ∀ p, outcome ≠ .run p) :
    (s.carryOut sched outcome).2.world = s.world := by
  cases outcome with
  | nothing => rfl
  | leave => rfl
  | run p => exact absurd rfl (hrun p)
  | error e =>
      obtain ⟨result, b', left', htell⟩ := tell_of_kept h s!"{e.category}: {e.message}\n"
      rw [carryOut, htell]
      cases result <;> rfl

theorem settle_ne_run {directory : String} {w w' : World} {outcome : Outcome}
    (h : (Command.changeDirectory directory).settle w = (outcome, w')) (p : Pipeline) :
    outcome ≠ .run p := by
  unfold Command.settle at h
  dsimp only at h
  split at h <;> cases h <;> nofun

/-- What a line does in the world is what it is said to do: reading and telling change
nothing else. -/
theorem world_step [ScriptSource σ] (sched : Scheduler) {s : Session σ} {b : Bytes}
    {left : Option Nat} (h : s.diagnostics = .kept b left) :
    (s.step sched).2.world =
      match s.deed? sched with
      | some deed => deed.after
      | none => (s.reader.read s.stream).2.2.source.2 := by
  rcases hread : s.reader.read s.stream with ⟨command, reader, stream⟩
  rcases hsettle : command.settle stream.source.2 with ⟨outcome, w⟩
  have hbehind : (s.behindReading reader stream w).diagnostics = .kept b left := h
  obtain ⟨result, b', left', htold⟩ := tellRejected_of_kept hbehind stream.takeRejected.1
  rw [step_eq sched s hread hsettle, htold]
  simp only [deed?, hread, hsettle, htold]
  cases result with
  | error f =>
      cases command with
      | changeDirectory directory => rfl
      | _ =>
          cases hsettle
          rfl
  | ok _ =>
      cases command with
      | changeDirectory directory => exact world_carryOut sched rfl (settle_ne_run hsettle)
      | run p =>
          cases hsettle
          rfl
      | _ =>
          cases hsettle
          exact world_carryOut sched rfl fun p ↦ nofun

/-! ## The two runs side by side -/

theorem tell_cut {s : Session σ} {b : Bytes} (h : s.diagnostics = .kept b none) (room : Nat)
    (text : String) :
    ((s.cut room).tell text = (.ok (), (s.tell text).2.cut room)) ∨
      ((s.cut room).tell text = (.error Diagnostics.full, (s.tell text).2.cut room) ∧
        room ≤ (b ++ encode text).length) := by
  have htell : (s.cut room).tell text =
      (if (encode text).length ≤ room - b.length then .ok () else .error Diagnostics.full,
        (s.tell text).2.cut room) := by
    rw [tell_kept h]
    simp only [tell, cut, h, Diagnostics.write_cut]
    rfl
  rw [htell, List.length_append]
  split
  · exact .inl rfl
  · exact .inr ⟨rfl, by omega⟩

/-- What is told of lines that give no tokens. -/
def toldOf (errors : List LineError) : Bytes :=
  errors.flatMap fun e ↦ encode s!"lex error: {e.message}\n"

theorem tellRejected_kept {s : Session σ} {b : Bytes} (h : s.diagnostics = .kept b none)
    (errors : List LineError) :
    s.tellRejected errors =
      (.ok (), { s with diagnostics := .kept (b ++ toldOf errors) none }) := by
  induction errors generalizing s b with
  | nil => simp [tellRejected, toldOf, ← h]
  | cons e rest ih =>
      rw [tellRejected, tell_kept h]
      dsimp only
      rw [ih rfl, toldOf, toldOf, List.flatMap_cons, List.append_assoc]

theorem tellRejected_cut {s : Session σ} {b : Bytes} (h : s.diagnostics = .kept b none)
    (room : Nat) (errors : List LineError) :
    (s.cut room).tellRejected errors = (.ok (), (s.tellRejected errors).2.cut room) ∨
      ∃ t, (s.cut room).tellRejected errors = (.error Diagnostics.full, t) ∧
        Diagnostics.FullFront room t.diagnostics (s.tellRejected errors).2.diagnostics := by
  induction errors generalizing s b with
  | nil => exact .inl rfl
  | cons e rest ih =>
      have htold : (s.tell s!"lex error: {e.message}\n").2.diagnostics =
          .kept (b ++ encode s!"lex error: {e.message}\n") none := by
        rw [tell_kept h]
      have hall : (s.tellRejected (e :: rest)).2 =
          ((s.tell s!"lex error: {e.message}\n").2.tellRejected rest).2 := by
        rw [tellRejected, tell_kept h]
      rw [hall]
      rcases tell_cut h room s!"lex error: {e.message}\n" with hok | ⟨hfull, hroom⟩
      · have hrest : (s.cut room).tellRejected (e :: rest) =
            ((s.tell s!"lex error: {e.message}\n").2.cut room).tellRejected rest := by
          rw [tellRejected, hok]
        rw [hrest]
        exact ih htold
      · have hstop : (s.cut room).tellRejected (e :: rest) =
            (.error Diagnostics.full, (s.tell s!"lex error: {e.message}\n").2.cut room) := by
          rw [tellRejected, hfull]
        refine .inr ⟨_, hstop, ?_⟩
        rw [tellRejected_kept htold]
        simp only [cut, htold]
        exact Diagnostics.fullFront_cut hroom _

/-- What a line has come to is carried out by the limited session as well, which may then be
full. -/
theorem carryOut_cut (sched : Scheduler) {s : Session σ} {b : Bytes}
    (h : s.diagnostics = .kept b none) (room : Nat) (outcome : Outcome) :
    (s.cut room).carryOut sched outcome =
        ((s.carryOut sched outcome).1, (s.carryOut sched outcome).2.cut room) ∨
      ∃ t, (s.cut room).carryOut sched outcome = (some (.error Diagnostics.full), t) ∧
        Diagnostics.FullFront room t.diagnostics
          (s.carryOut sched outcome).2.diagnostics := by
  cases outcome with
  | nothing => exact .inl rfl
  | leave => exact .inl rfl
  | error e =>
      have hgoes : s.carryOut sched (.error e) =
          (none, (s.tell s!"{e.category}: {e.message}\n").2) := by
        rw [carryOut, tell_kept h]
      rcases tell_cut h room s!"{e.category}: {e.message}\n" with hok | ⟨hfull, hroom⟩
      · left
        rw [hgoes, carryOut, hok]
      · right
        rw [hgoes, carryOut, hfull]
        refine ⟨_, rfl, ?_⟩
        rw [tell_kept h]
        have hfront := Diagnostics.fullFront_cut hroom []
        rwa [List.append_nil] at hfront
  | run p =>
      left
      have hrun : p.execute sched (s.cut room).diagnostics (s.cut room).world =
          ((p.execute sched s.diagnostics s.world).1,
            (p.execute sched s.diagnostics s.world).2.1.cut room,
            (p.execute sched s.diagnostics s.world).2.2) := by
        simp only [cut, h]
        exact p.execute_cut room b s.world
      simp only [carryOut, runPipeline, hrun]
      rfl

/-- What a session tells is put behind what has been told. -/
theorem carryOut_kept (sched : Scheduler) {s : Session σ} {b : Bytes}
    (h : s.diagnostics = .kept b none) (outcome : Outcome) :
    ∃ more, (s.carryOut sched outcome).2.diagnostics = .kept (b ++ more) none := by
  cases outcome with
  | nothing => exact ⟨[], by rw [List.append_nil]; exact h⟩
  | leave => exact ⟨[], by rw [List.append_nil]; exact h⟩
  | error e =>
      refine ⟨encode s!"{e.category}: {e.message}\n", ?_⟩
      rw [carryOut, tell_kept h]
  | run p =>
      refine ⟨(p.execute sched .unlimited s.world).2.1.bytes, ?_⟩
      simp only [carryOut, runPipeline, h]
      rw [p.execute_kept]
      rfl

variable [ScriptSource σ]

/-- A line that is carried out by both sessions does the same in both. -/
theorem deed?_cut (sched : Scheduler) {s : Session σ} {b : Bytes}
    (h : s.diagnostics = .kept b none) {room : Nat} {command : Command}
    {reader : CommandReader} {stream : TokenStream (σ × World)} {outcome : Outcome} {w : World}
    (hread : s.reader.read s.stream = (command, reader, stream))
    (hsettle : command.settle stream.source.2 = (outcome, w))
    (htold : ((s.behindReading reader stream w).cut room).tellRejected stream.takeRejected.1 =
      (.ok (), ((s.behindReading reader stream w).tellRejected stream.takeRejected.1).2.cut
        room)) : (s.cut room).deed? sched = s.deed? sched := by
  have hcut : (s.cut room).reader.read (s.cut room).stream = (command, reader, stream) := hread
  have hbehind : (s.behindReading reader stream w).diagnostics = .kept b none := h
  simp only [deed?, hread, hcut, hsettle, behindReading_cut, htold, tellRejected_kept hbehind]
  cases command with
  | run p =>
      dsimp only [cut]
      rw [Pipeline.execute_cut]
      rfl
  | _ => rfl

/-- A full session does nothing that the other one does not do. -/
theorem deed?_cut_of_error (sched : Scheduler) {s t : Session σ} {room : Nat}
    {command : Command} {reader : CommandReader} {stream : TokenStream (σ × World)}
    {outcome : Outcome} {w : World} {f : Failure}
    (hread : s.reader.read s.stream = (command, reader, stream))
    (hsettle : command.settle stream.source.2 = (outcome, w))
    (htold : ((s.behindReading reader stream w).cut room).tellRejected stream.takeRejected.1 =
      (.error f, t)) :
    (s.cut room).deed? sched = none ∨ (s.cut room).deed? sched = s.deed? sched := by
  have hcut : (s.cut room).reader.read (s.cut room).stream = (command, reader, stream) := hread
  simp only [deed?, hread, hcut, hsettle, behindReading_cut, htold]
  cases command with
  | changeDirectory directory => exact .inr rfl
  | _ => exact .inl rfl

/-- Without a limit all lines turned down are told of, and then the line is carried out. -/
theorem step_told (sched : Scheduler) {s : Session σ} {b : Bytes}
    (h : s.diagnostics = .kept b none) {command : Command} {reader : CommandReader}
    {stream : TokenStream (σ × World)} {outcome : Outcome} {w : World}
    (hread : s.reader.read s.stream = (command, reader, stream))
    (hsettle : command.settle stream.source.2 = (outcome, w)) :
    let told := ((s.behindReading reader stream w).tellRejected stream.takeRejected.1).2
    s.step sched = told.carryOut sched outcome ∧
      told.diagnostics = .kept (b ++ toldOf stream.takeRejected.1) none := by
  intro told
  have hbehind : (s.behindReading reader stream w).diagnostics = .kept b none := h
  have htells := tellRejected_kept hbehind stream.takeRejected.1
  constructor
  · rw [step_eq sched s hread hsettle]
    simp only [told, htells]
  · simp only [told, htells]

/-- The limited session does with a line what the other one does, or is full and ends. -/
theorem step_cut (sched : Scheduler) {s : Session σ} {b : Bytes}
    (h : s.diagnostics = .kept b none) (room : Nat) :
    ((s.cut room).step sched = ((s.step sched).1, (s.step sched).2.cut room) ∧
        (s.cut room).deed? sched = s.deed? sched) ∨
      ∃ t, (s.cut room).step sched = (some (.error Diagnostics.full), t) ∧
        Diagnostics.FullFront room t.diagnostics (s.step sched).2.diagnostics ∧
        ((s.cut room).deed? sched = none ∨ (s.cut room).deed? sched = s.deed? sched) := by
  rcases hread : s.reader.read s.stream with ⟨command, reader, stream⟩
  rcases hsettle : command.settle stream.source.2 with ⟨outcome, w⟩
  have hcut : (s.cut room).reader.read (s.cut room).stream = (command, reader, stream) := hread
  have hbehind : (s.behindReading reader stream w).diagnostics = .kept b none := h
  obtain ⟨hs, htold⟩ := step_told sched h hread hsettle
  rcases tellRejected_cut hbehind room stream.takeRejected.1 with hok | ⟨t, herror, hfront⟩
  · have hdeed := deed?_cut sched h hread hsettle hok
    have hlimited : (s.cut room).step sched =
        (((s.behindReading reader stream w).tellRejected stream.takeRejected.1).2.cut
          room).carryOut sched outcome := by
      rw [step_eq sched _ hcut hsettle, behindReading_cut, hok]
    rw [hlimited, hs]
    rcases carryOut_cut sched htold room outcome with hsame | ⟨t, hfull, hfront⟩
    · exact .inl ⟨hsame, hdeed⟩
    · exact .inr ⟨t, hfull, hfront, .inr hdeed⟩
  · have hlimited : (s.cut room).step sched = (some (.error Diagnostics.full), t) := by
      rw [step_eq sched _ hcut hsettle, behindReading_cut, herror]
    obtain ⟨more, hmore⟩ := carryOut_kept sched htold outcome
    refine .inr ⟨t, hlimited, ?_, deed?_cut_of_error sched hread hsettle herror⟩
    apply hfront.trans
    rw [hs, hmore, htold]
    exact List.prefix_append _ more

theorem step_kept (sched : Scheduler) {s : Session σ} {b : Bytes}
    (h : s.diagnostics = .kept b none) :
    ∃ more, (s.step sched).2.diagnostics = .kept (b ++ more) none := by
  rcases hread : s.reader.read s.stream with ⟨command, reader, stream⟩
  rcases hsettle : command.settle stream.source.2 with ⟨outcome, w⟩
  obtain ⟨hs, htold⟩ := step_told sched h hread hsettle
  obtain ⟨more, hmore⟩ := carryOut_kept sched htold outcome
  refine ⟨toldOf stream.takeRejected.1 ++ more, ?_⟩
  rw [← List.append_assoc, hs, hmore]

theorem run_kept (sched : Scheduler) (lines : Nat) {s : Session σ} {b : Bytes}
    (h : s.diagnostics = .kept b none) :
    ∃ more, (s.run sched lines).2.diagnostics = .kept (b ++ more) none := by
  induction lines generalizing s b with
  | zero => exact ⟨[], by rw [List.append_nil]; exact h⟩
  | succ left ih =>
      obtain ⟨more, hmore⟩ := step_kept sched h
      rcases hstep : s.step sched with ⟨_ | result, s'⟩
      all_goals rw [hstep] at hmore
      · obtain ⟨rest, hrest⟩ := ih hmore
        refine ⟨more ++ rest, ?_⟩
        rw [run_of_goes hstep left, ← List.append_assoc]
        exact hrest
      · refine ⟨more, ?_⟩
        rw [run_of_ends hstep left]
        exact hmore

theorem step_prefix_run (sched : Scheduler) (left : Nat) {s : Session σ} {b : Bytes}
    (h : s.diagnostics = .kept b none) :
    (s.step sched).2.diagnostics.bytes <+: (s.run sched (left + 1)).2.diagnostics.bytes := by
  obtain ⟨more, hmore⟩ := step_kept sched h
  rcases hstep : s.step sched with ⟨_ | result, s'⟩
  · rw [hstep] at hmore
    obtain ⟨rest, hrest⟩ := run_kept sched left hmore
    rw [run_of_goes hstep left, hmore, hrest]
    exact List.prefix_append _ rest
  · simp only [run_of_ends hstep left, List.prefix_rfl]

/-- The limited session keeps the front of what the other one tells and does a part of what
it does, from the beginning; it ends as the other one does unless its limit ends it. -/
theorem run_cut (sched : Scheduler) (lines : Nat) {s : Session σ} {b : Bytes}
    (h : s.diagnostics = .kept b none) (room : Nat) :
    ((s.cut room).run sched lines).2.diagnostics.bytes =
        (s.run sched lines).2.diagnostics.bytes.take room ∧
      (s.cut room).deeds sched lines <+: s.deeds sched lines ∧
      (((s.cut room).run sched lines).1 = (s.run sched lines).1 ∨
        ((s.cut room).run sched lines).1 = some (.error Diagnostics.full)) := by
  induction lines generalizing s b with
  | zero =>
      exact ⟨bytes_cut h room, List.prefix_rfl, .inl rfl⟩
  | succ left ih =>
      obtain ⟨more, hmore⟩ := step_kept sched h
      rcases step_cut sched h room with ⟨hsame, hdeed⟩ | ⟨t, hfull, hfront, hdeed⟩
      · rcases hstep : s.step sched with ⟨_ | result, s'⟩
        all_goals
          rw [hstep] at hsame hmore
          rw [deeds, deeds, hsame, hstep, hdeed]
        · obtain ⟨hbytes, hdeeds, hresult⟩ := ih hmore
          rw [run_of_goes hsame left, run_of_goes hstep left]
          exact ⟨hbytes, (List.prefix_append_right_inj _).2 hdeeds, hresult⟩
        · rw [run_of_ends hsame left, run_of_ends hstep left]
          exact ⟨bytes_cut hmore room, List.prefix_rfl, .inl rfl⟩
      · have hlast : (s.cut room).deeds sched (left + 1) =
            ((s.cut room).deed? sched).toList := by
          rw [deeds, hfull, List.append_nil]
        rw [run_of_ends hfull left, hlast]
        refine ⟨(hfront.trans (step_prefix_run sched left h)).bytes_eq, ?_, .inr rfl⟩
        rcases hdeed with hnone | hsame
        · rw [hnone]
          exact List.nil_prefix
        · rw [hsame, deeds]
          exact List.prefix_append _ _

/-- A limited session shows the front of what an unlimited one shows: it keeps the first
bytes, and what its lines do is what the first lines of the other one do, with the same
outcomes.  Pipelines run, and are waited for, as they would without a limit. -/
theorem limited_shows_front (sched : Scheduler) (room : Nat) :
    (∀ (lines : Nat) (reader : CommandReader) (script : σ) (w : World),
      let limited := begin reader (.limited room) script w
      let full := begin reader .unlimited script w
      (limited.run sched lines).2.diagnostics.bytes =
          (full.run sched lines).2.diagnostics.bytes.take room ∧
        limited.deeds sched lines <+: full.deeds sched lines ∧
        ((limited.run sched lines).1 = (full.run sched lines).1 ∨
          (limited.run sched lines).1 = some (.error Diagnostics.full))) ∧
      ∀ (p : Pipeline) (bytes : Bytes) (w : World),
        let limited := p.execute sched (.kept bytes (some room)) w
        let full := p.execute sched .unlimited w
        limited.1 = full.1 ∧ limited.2.2 = full.2.2 ∧
          (p.start w).world.Waited (p.start w).pids w.children limited.2.2 := by
  constructor
  · intro lines reader script w limited full
    have hcut : limited = full.cut room := by
      change begin reader (.limited room) script w = begin reader _ script w
      rw [← Diagnostics.cut_unlimited]
      rfl
    rw [hcut]
    exact run_cut sched lines rfl room
  · intro p bytes w limited full
    obtain ⟨houtcome, hworld⟩ : limited.1 = full.1 ∧ limited.2.2 = full.2.2 :=
      p.execute_limited bytes room w
    exact ⟨houtcome, hworld, p.waited_execute_start sched _ w⟩

end Session

end PipeShell

import Mathlib
import PipeShell.Proofs.LimitedDiagnostics
import PipeShell.Proofs.LineByLine

/-!
# A line that is turned down is inert

A line may be turned down for what is written in it or because a directory cannot be entered.
The session tells of it, and that is all: the same script with an empty line in its place
takes the same course, runs the same pipelines in the same worlds and tells the same, but for
that one message.
-/

namespace PipeShell

/-- In this world the line is turned down, and this is told of it. -/
inductive Rejects (w : World) (bytes : Bytes) : String → Prop where
  /-- The line is no text, or a quotation in it has no end. -/
  | noTokens {e : LineError} (htokens : Token.ofBytes bytes = .error e) :
      Rejects w bytes s!"lex error: {e.message}\n"
  | noCommand {tokens : List Token} {e : CommandError}
      (htokens : Token.ofBytes bytes = .ok tokens)
      (hrefused : Command.ofLine tokens .newline = .refused e) :
      Rejects w bytes s!"{e.category}: {e.message}\n"
  | noDirectory {tokens : List Token} {directory : String} {cause : FileError}
      (htokens : Token.ofBytes bytes = .ok tokens)
      (hmove : Command.ofLine tokens .newline = .changeDirectory directory)
      (hfails : w.changeDirectory directory = .error cause) :
      Rejects w bytes
        s!"exec error: {(CommandError.changeDirectory directory cause).message}\n"

/-! ## What a line runs -/

theorem CommandReader.new_read_ofLine (tokens : List Token) :
    (new.read (Symbol.ofLine tokens)).1 = Command.ofLine tokens .newline := by
  have hread := read_ofLine .new tokens []
  rwa [List.append_nil] at hread

/-- The pipeline that a command runs, with no room to spare, and the world it is run in. -/
def Command.run? (c : Command) (w : World) : Option (Pipeline × World) :=
  match c with
  | .run p => some (p.fitted, w)
  | _ => none

/-- The pipeline that a line runs. -/
def LineCourse.run? (bytes : Bytes) (w : World) : Option (Pipeline × World) :=
  match Token.ofBytes bytes with
  | .error _ => none
  | .ok tokens => (Command.ofLine tokens .newline).run? w

theorem Command.run?_congr {c c' : Command} (h : c.fitted = c'.fitted) (w : World) :
    c.run? w = c'.run? w := by
  obtain rfl | ⟨p, p', rfl, rfl, hp⟩ := Command.cases_of_fitted_eq h
  · rfl
  · simp only [run?, hp]

theorem LineCourse.ofBytes_nil (sched : Scheduler) (w : World) :
    ofBytes sched [] w = ⟨true, [], w⟩ := by
  have htokens : Token.ofBytes [] = .ok [] := rfl
  have hread : (CommandReader.new.read (Symbol.ofLine [])).1 = .nothing :=
    CommandReader.new_read_ofLine []
  simp only [ofBytes, htokens, ofCommand, hread, Command.settle]

theorem LineCourse.run?_nil (w : World) : run? [] w = none := rfl

variable {w : World} {bytes : Bytes} {message : String}

/-- Nothing comes of a line that is turned down but the message. -/
theorem LineCourse.ofBytes_of_rejects (h : Rejects w bytes message) (sched : Scheduler) :
    ofBytes sched bytes w = ⟨true, encode message, w⟩ := by
  have hread := CommandReader.new_read_ofLine
  cases h with
  | noTokens htokens => simp only [ofBytes, htokens]
  | noCommand htokens hrefused =>
      simp only [ofBytes, htokens, ofCommand, hread, hrefused, Command.settle]
  | noDirectory htokens hmove hfails =>
      simp only [ofBytes, htokens, ofCommand, hread, hmove, Command.settle, hfails]
      rfl

theorem LineCourse.run?_of_rejects (h : Rejects w bytes message) : run? bytes w = none := by
  cases h with
  | noTokens htokens => simp only [run?, htokens]
  | noCommand htokens hrefused => simp only [run?, htokens, hrefused, Command.run?]
  | noDirectory htokens hmove hfails => simp only [run?, htokens, hmove, Command.run?]

/-! ## What a script runs -/

namespace ScriptCourse

/-- The pipelines that at most so many lines run, in order, each with the world it is run
in. -/
def runs {σ : Type u} [ScriptSource σ] (sched : Scheduler) (lines : Nat) (script : σ)
    (w : World) : List (Pipeline × World) :=
  match lines with
  | 0 => []
  | left + 1 =>
      match ScriptSource.readLine script w with
      | (.line bytes, script, w) =>
          let line := LineCourse.ofBytes sched bytes w
          (LineCourse.run? bytes w).toList ++
            if line.goesOn then runs sched left script line.world else []
      | _ => []

/-- The other course differs in nothing but this, which is not told in it behind what has
been told before. -/
structure LacksOnly (other course : ScriptCourse Readings) (before told : Bytes) : Prop where
  result : other.result = course.result
  taken : other.script.taken = course.script.taken
  world : other.world = course.world
  told : ∃ behind, course.told = before ++ told ++ behind ∧ other.told = before ++ behind

theorem le_taken_ofScript (sched : Scheduler) (lines : Nat) (readings : List LineReading)
    (taken : Nat) (w : World) :
    taken ≤ (ofScript sched lines (Readings.mk readings taken) w).script.taken := by
  induction lines generalizing readings taken w with
  | zero => exact Nat.le_refl taken
  | succ left ih =>
      cases readings with
      | nil => exact Nat.le_succ taken
      | cons reading rest =>
          cases reading with
          | endOfInput => exact Nat.le_succ taken
          | failure cause => exact Nat.le_succ taken
          | line bytes =>
              have hrest := ih rest (taken + 1) (LineCourse.ofBytes sched bytes w).world
              have hread : ScriptSource.readLine (Readings.mk (.line bytes :: rest) taken) w =
                  (.line bytes, ⟨rest, taken + 1⟩, w) := rfl
              rw [ofScript, hread]
              dsimp only
              split
              · exact Nat.le_of_succ_le hrest
              · exact Nat.le_succ taken

variable {sched : Scheduler} {rest : List LineReading} {taken left : Nat}

theorem ofScript_cons (hgoes : (LineCourse.ofBytes sched bytes w).goesOn = true) :
    let line := LineCourse.ofBytes sched bytes w
    let after := ofScript sched left (Readings.mk rest (taken + 1)) line.world
    ofScript sched (left + 1) (Readings.mk (.line bytes :: rest) taken) w =
      { after with told := line.told ++ after.told } := by
  have hread : ScriptSource.readLine (Readings.mk (.line bytes :: rest) taken) w =
      (.line bytes, ⟨rest, taken + 1⟩, w) := rfl
  simp only [ofScript, hread, hgoes, if_true]

theorem runs_cons (hgoes : (LineCourse.ofBytes sched bytes w).goesOn = true) :
    let line := LineCourse.ofBytes sched bytes w
    runs sched (left + 1) (Readings.mk (.line bytes :: rest) taken) w =
      (LineCourse.run? bytes w).toList ++
        runs sched left (Readings.mk rest (taken + 1)) line.world := by
  have hread : ScriptSource.readLine (Readings.mk (.line bytes :: rest) taken) w =
      (.line bytes, ⟨rest, taken + 1⟩, w) := rfl
  simp only [runs, hread, hgoes, if_true]

/-- If nothing is read behind the first reading, the others play no part. -/
theorem ofScript_of_ends {reading : LineReading}
    (hends : ∀ bytes, reading = .line bytes → (LineCourse.ofBytes sched bytes w).goesOn = false)
    (taken : Nat) :
    ∃ result told after executed, ∀ left rest,
      ofScript sched (left + 1) (Readings.mk (reading :: rest) taken) w =
          ⟨result, told, ⟨rest, taken + 1⟩, after⟩ ∧
        runs sched (left + 1) (Readings.mk (reading :: rest) taken) w = executed := by
  have hread : ∀ rest, ScriptSource.readLine (Readings.mk (reading :: rest) taken) w =
      (reading, ⟨rest, taken + 1⟩, w) := fun _ ↦ rfl
  cases reading with
  | endOfInput => exact ⟨_, _, _, _, fun _ _ ↦ ⟨rfl, rfl⟩⟩
  | failure cause => exact ⟨_, _, _, _, fun _ _ ↦ ⟨rfl, rfl⟩⟩
  | line bytes =>
      refine ⟨some (.ok ()), (LineCourse.ofBytes sched bytes w).told,
        (LineCourse.ofBytes sched bytes w).world, (LineCourse.run? bytes w).toList,
        fun left rest ↦ ⟨?_, ?_⟩⟩
      · simp only [ofScript, hread, hends bytes rfl, Bool.false_eq_true, if_false]
      · simp only [runs, hread, hends bytes rfl, Bool.false_eq_true, if_false, List.append_nil]

/-- What has been told before may be preceded by what an earlier line tells. -/
theorem LacksOnly.behind {other course : ScriptCourse Readings} {before told : Bytes}
    (h : LacksOnly other course before told) (first : Bytes) :
    LacksOnly { other with told := first ++ other.told }
      { course with told := first ++ course.told } (first ++ before) told := by
  obtain ⟨behind, hcourse, hother⟩ := h.told
  refine ⟨h.result, h.taken, h.world, behind, ?_, ?_⟩
  · rw [hcourse]
    simp only [List.append_assoc]
  · rw [hother, List.append_assoc]

/-- The line that is turned down is the next one. -/
theorem lacksOnly_blank (hrejected : Rejects w bytes message) :
    LacksOnly (ofScript sched (left + 1) (Readings.mk (.line [] :: rest) taken) w)
        (ofScript sched (left + 1) (Readings.mk (.line bytes :: rest) taken) w) []
        (encode message) ∧
      runs sched (left + 1) (Readings.mk (.line [] :: rest) taken) w =
        runs sched (left + 1) (Readings.mk (.line bytes :: rest) taken) w := by
  have hcourse := LineCourse.ofBytes_of_rejects hrejected sched
  have hblank := LineCourse.ofBytes_nil sched w
  rw [ofScript_cons (by rw [hblank]), ofScript_cons (by rw [hcourse]),
    runs_cons (by rw [hblank]), runs_cons (by rw [hcourse]),
    LineCourse.run?_of_rejects hrejected, LineCourse.run?_nil, hcourse, hblank]
  exact ⟨⟨rfl, rfl, rfl, _, rfl, rfl⟩, rfl⟩

/-- A line that is turned down leaves nothing in the course of its script but the message. -/
theorem lacksOnly_set {readings : List LineReading} {i : Nat} (taken lines : Nat)
    (hline : readings[i]? = some (.line bytes))
    (hrejected : Rejects (ofScript sched i (Readings.mk readings taken) w).world bytes message) :
    let course := ofScript sched lines (Readings.mk readings taken) w
    let blanked := Readings.mk (readings.set i (.line [])) taken
    LacksOnly (ofScript sched lines blanked w) course
        (ofScript sched (min lines i) (Readings.mk readings taken) w).told
        (if taken + i < course.script.taken then encode message else []) ∧
      runs sched lines blanked w = runs sched lines (Readings.mk readings taken) w := by
  intro course blanked
  -- Both scripts take the same course up to the line, and from behind it on they are one script.
  induction lines generalizing readings i taken w with
  | zero =>
      have hunread : ¬ taken + i < course.script.taken := Nat.not_lt.2 (Nat.le_add_right taken i)
      rw [if_neg hunread, Nat.zero_min]
      exact ⟨⟨rfl, rfl, rfl, [], rfl, rfl⟩, rfl⟩
  | succ left ih =>
      obtain ⟨reading, rest, rfl⟩ : ∃ reading rest, readings = reading :: rest := by
        cases readings with
        | nil => cases hline
        | cons reading rest => exact ⟨reading, rest, rfl⟩
      cases i with
      | zero =>
          obtain rfl : reading = .line bytes := Option.some.inj hline
          replace hrejected : Rejects w bytes message := hrejected
          have hread : taken + 0 < course.script.taken := by
            simp only [course]
            rw [ofScript_cons (by rw [LineCourse.ofBytes_of_rejects hrejected])]
            exact le_taken_ofScript sched left rest (taken + 1) _
          rw [if_pos hread]
          exact lacksOnly_blank hrejected
      | succ i =>
          rw [Nat.succ_min_succ]
          by_cases hgoes : ∃ first, reading = .line first ∧
              (LineCourse.ofBytes sched first w).goesOn = true
          · obtain ⟨first, rfl, hgoes⟩ := hgoes
            rw [ofScript_cons hgoes] at hrejected
            obtain ⟨hcourse, hruns⟩ := ih (taken + 1) (by simpa using hline) hrejected
            simp only [course, blanked, List.set_cons_succ, ofScript_cons hgoes, runs_cons hgoes]
            rw [hruns, show taken + (i + 1) = taken + 1 + i by omega]
            exact ⟨hcourse.behind _, rfl⟩
          · have hends : ∀ first, reading = .line first →
                (LineCourse.ofBytes sched first w).goesOn = false := by
              intro first hfirst
              simpa [hfirst] using hgoes
            obtain ⟨result, told, after, executed, hended⟩ := ofScript_of_ends hends taken
            have hunread : ¬ taken + (i + 1) < course.script.taken := by
              simp only [course, hended]
              omega
            rw [if_neg hunread]
            simp only [course, blanked, List.set_cons_succ, hended]
            exact ⟨⟨rfl, rfl, rfl, [], by simp, by simp⟩, trivial⟩

end ScriptCourse

namespace Session

variable {σ : Type u}

/-- The pipeline that the next line of a session runs, and the world that it is run in. -/
def run? [ScriptSource σ] (s : Session σ) : Option (Pipeline × World) :=
  let (command, reader, stream) := s.reader.read s.stream
  let (outcome, w) := command.settle stream.source.2
  match outcome, (s.behindReading reader stream w).tellRejected stream.takeRejected.1 with
  | .run p, (.ok (), s) => some (p.fitted, s.world)
  | _, _ => none

/-- The pipelines that at most so many lines of a session run, in order, each with the world
it is run in. -/
def runs [ScriptSource σ] (sched : Scheduler) (lines : Nat) (s : Session σ) :
    List (Pipeline × World) :=
  match lines with
  | 0 => []
  | left + 1 =>
      s.run?.toList ++
        match s.step sched with
        | (some _, _) => []
        | (none, s) => s.runs sched left

/-- A pipeline that is run by a line is all that the line does. -/
theorem world_step_of_run? [ScriptSource σ] (sched : Scheduler) {s : Session σ} {p : Pipeline}
    {w : World} (h : s.run? = some (p, w)) :
    ∃ d, (s.step sched).1 = none ∧ (s.step sched).2.world = (p.execute sched d w).2.2 := by
  rcases hread : s.reader.read s.stream with ⟨command, reader, stream⟩
  rcases hsettle : command.settle stream.source.2 with ⟨outcome, w'⟩
  rw [step_eq sched s hread hsettle]
  simp only [run?, hread, hsettle] at h
  split at h
  next p' s' htold =>
    obtain ⟨rfl, rfl⟩ := Prod.mk.inj (Option.some.inj h)
    rw [htold]
    exact ⟨s'.diagnostics, rfl, rfl⟩
  next => cases h

variable [ScriptSource σ] {script script' : σ} {w w' : World} {reader : CommandReader} {b : Bytes}

/-- Whatever else has been read, a line whose command is none to be run runs nothing. -/
theorem run?_begin_of_settle {c : Command} {reader' : CommandReader}
    {stream : TokenStream (σ × World)}
    (hread : reader.read (TokenStream.ofSource (script, w)) = (c, reader', stream))
    (hsettle : ∀ p, (c.settle stream.source.2).1 ≠ .run p) :
    (begin reader (.kept b none) script w).run? = none := by
  have hbegin : (begin reader (.kept b none) script w).reader.read
      (begin reader (.kept b none) script w).stream = (c, reader', stream) := hread
  simp only [run?, hbegin]
  split
  next p s' hrun _ => exact absurd hrun (hsettle p)
  next => rfl

theorem run?_begin_of_read {c : Command} {reader' : CommandReader}
    (hread : reader.read (TokenStream.ofSource (script, w)) =
      (c, reader', TokenStream.ofSource (script', w'))) :
    (begin reader (.kept b none) script w).run? = c.run? w' := by
  cases c with
  | run p =>
      have hbegin : (begin reader (.kept b none) script w).reader.read
          (begin reader (.kept b none) script w).stream =
            (.run p, reader', TokenStream.ofSource (script', w')) := hread
      simp only [run?, hbegin]
      rfl
  | changeDirectory directory =>
      exact run?_begin_of_settle hread fun p ↦ settle_ne_run rfl p
  | _ => exact run?_begin_of_settle hread fun p ↦ nofun

theorem run?_begin_endOfInput
    (hread : ScriptSource.readLine script w = (.endOfInput, script', w')) :
    (begin reader (.kept b none) script w).run? = none := by
  obtain ⟨reader', hreader⟩ := CommandReader.read_of_takeLine
    (TokenStream.takeLine_endOfInput (s := .ofSource (script, w)) rfl rfl (readLine_pair hread))
    reader
  exact run?_begin_of_settle hreader fun p ↦ nofun

theorem run?_begin_failure {cause : Failure}
    (hread : ScriptSource.readLine script w = (.failure cause, script', w')) :
    (begin reader (.kept b none) script w).run? = none := by
  obtain ⟨reader', hreader⟩ := CommandReader.read_of_takeLine
    (TokenStream.takeLine_failure (s := .ofSource (script, w)) rfl rfl (readLine_pair hread))
    reader
  exact run?_begin_of_settle hreader fun p ↦ nofun

theorem run?_begin_line {bytes : Bytes}
    (hread : ScriptSource.readLine script w = (.line bytes, script', w')) :
    (begin reader (.kept b none) script w).run? = LineCourse.run? bytes w' := by
  have hpair := readLine_pair hread
  cases htokens : Token.ofBytes bytes with
  | error e =>
      obtain ⟨reader', hreader⟩ := CommandReader.read_of_takeLine
        (TokenStream.takeLine_rejected (s := .ofSource (script, w)) rfl rfl hpair htokens) reader
      simp only [LineCourse.run?, htokens]
      exact run?_begin_of_settle hreader fun p ↦ nofun
  | ok tokens =>
      obtain ⟨reader', hreader⟩ := CommandReader.read_of_takeLine
        (TokenStream.takeLine_line (s := .ofSource (script, w)) rfl rfl hpair htokens) reader
      simp only [LineCourse.run?, htokens]
      rw [run?_begin_of_read hreader]
      exact Command.run?_congr (Command.fitted_ofTokens reader.buffer .empty tokens .newline) w'

theorem runs_begin (sched : Scheduler) (lines : Nat) (reader : CommandReader) (b : Bytes)
    (script : σ) (w : World) :
    (begin reader (.kept b none) script w).runs sched lines =
      ScriptCourse.runs sched lines script w := by
  induction lines generalizing reader b script w with
  | zero => rfl
  | succ left ih =>
      rcases hread : ScriptSource.readLine script w with ⟨reading, script', w'⟩
      rw [runs, ScriptCourse.runs, hread]
      cases reading with
      | endOfInput =>
          obtain ⟨s, hstep, -⟩ := step_endOfInput sched hread reader (.kept b none)
          rw [run?_begin_endOfInput hread, hstep]
          rfl
      | failure cause =>
          obtain ⟨s, hstep, -⟩ := step_failure sched hread reader (.kept b none)
          rw [run?_begin_failure hread, hstep]
          rfl
      | line bytes =>
          obtain ⟨reader', hstep⟩ := step_line sched hread reader (.kept b none)
          rw [LineEffect.ofBytes_kept] at hstep
          rw [run?_begin_line hread, hstep]
          dsimp only
          cases (LineCourse.ofBytes sched bytes w').goesOn with
          | false => rfl
          | true => exact congrArg _ (ih _ _ _ _)

/-- A line that is turned down is inert: with an empty line in its place as many lines are
read, the same pipelines are run in the same worlds, the world is the same after every line,
and the session ends the same way.  Only the message is missing, where it was told. -/
theorem rejected_line_inert (sched : Scheduler) (reader : CommandReader) (b : Bytes)
    {readings : List LineReading} {i : Nat} {bytes : Bytes} {message : String} (w : World)
    (hline : readings[i]? = some (.line bytes)) :
    let original := begin reader (.kept b none) (Readings.ofList readings) w
    let blanked := begin reader (.kept b none) (Readings.ofList (readings.set i (.line []))) w
    Rejects (original.run sched i).2.world bytes message → ∀ lines,
      let ended := original.run sched lines
      let other := blanked.run sched lines
      other.1 = ended.1 ∧ other.2.script.taken = ended.2.script.taken ∧
        other.2.world = ended.2.world ∧
        blanked.runs sched lines = original.runs sched lines ∧
        ∃ before behind,
          let told := if i < ended.2.script.taken then encode message else []
          (original.run sched (min lines i)).2.diagnostics = .kept (b ++ before) none ∧
            ended.2.diagnostics = .kept (b ++ before ++ told ++ behind) none ∧
            other.2.diagnostics = .kept (b ++ before ++ behind) none := by
  intro original blanked hrejected lines ended other
  have hcourse := fun n ↦ run_follows_course sched n reader b (Readings.ofList readings) w
  obtain ⟨hresult, hdiagnostics, hscript, hworld⟩ := hcourse lines
  obtain ⟨hresult', hdiagnostics', hscript', hworld'⟩ := run_follows_course sched lines reader b
    (Readings.ofList (readings.set i (.line []))) w
  obtain ⟨-, hbefore, -, -⟩ := hcourse (min lines i)
  obtain ⟨-, -, -, hreached⟩ := hcourse i
  simp only [original, hreached] at hrejected
  obtain ⟨hlacks, hruns⟩ := ScriptCourse.lacksOnly_set 0 lines hline hrejected
  obtain ⟨behind, htold, htold'⟩ := hlacks.told
  have htaken : ended.2.script.taken =
      (ScriptCourse.ofScript sched lines (Readings.mk readings 0) w).script.taken :=
    congrArg Readings.taken hscript
  refine ⟨?_, ?_, ?_, ?_, _, behind, hbefore, ?_, ?_⟩
  · exact hresult'.trans (hlacks.result.trans hresult.symm)
  · rw [htaken]
    exact (congrArg Readings.taken hscript').trans hlacks.taken
  · exact hworld'.trans (hlacks.world.trans hworld.symm)
  · simp only [original, blanked, runs_begin]
    exact hruns
  · apply hdiagnostics.trans
    rw [Nat.zero_add, ← htaken] at htold
    rw [List.append_assoc b, List.append_assoc b]
    exact congrArg (fun more ↦ Diagnostics.kept (b ++ more) none) htold
  · apply hdiagnostics'.trans
    rw [List.append_assoc b]
    exact congrArg (fun more ↦ Diagnostics.kept (b ++ more) none) htold'

/-- The second `cd` fails, since the directory that the first one entered has no other in it. -/
theorem rejected_line_inert_missing :
    let readings : List LineReading := [.line (encode "cd d"), .line (encode "cd d")]
    let w : World :=
      ⟨⟨⟨#[.directory [("d", 1)] 0 0o777, .directory [] 0 0o777]⟩, #[], #[], #[], 0⟩, ⟨[]⟩,
        Tree.root, [], #[], [], .none⟩
    let sched : Scheduler := ⟨fun w _ ↦ (.exited 0, w.machine)⟩
    let original := begin .new (.kept [] none) (Readings.ofList readings) w
    let blanked := begin .new (.kept [] none) (Readings.ofList (readings.set 1 (.line []))) w
    let failed := CommandError.changeDirectory "d" (.refused .noEntry)
    let message := s!"exec error: {failed.message}\n"
    readings[1]? = some (.line (encode "cd d")) ∧
      Rejects (original.run sched 1).2.world (encode "cd d") message ∧
      (blanked.run sched 2).2.world = (original.run sched 2).2.world ∧
      ∃ before behind,
        (original.run sched 2).2.diagnostics = .kept (before ++ encode message ++ behind) none ∧
          (blanked.run sched 2).2.diagnostics = .kept (before ++ behind) none := by
  intro readings w sched original blanked failed message
  have htokens : Token.ofBytes (encode "cd d") = .ok [.word "cd", .word "d"] := by cbv
  have hread : (CommandReader.new.read (Symbol.ofLine [.word "cd", .word "d"])).1 =
      .changeDirectory "d" := by cbv
  have hmoved : w.changeDirectory "d" = .ok ({ w with cwd := 1 }.note (.moved 1)) := by
    simp only [w]
    cbv
  have hfirst : LineCourse.ofBytes sched (encode "cd d") w =
      ⟨true, [], { w with cwd := 1 }.note (.moved 1)⟩ := by
    simp only [LineCourse.ofBytes, htokens, LineCourse.ofCommand, hread, Command.settle, hmoved]
  have hrejected : Rejects ({ w with cwd := 1 }.note (.moved 1)) (encode "cd d") message := by
    apply Rejects.noDirectory htokens
    · cbv
    · simp only [w]
      cbv
  have hsecond := LineCourse.ofBytes_of_rejects hrejected sched
  have hworld : (original.run sched 1).2.world = { w with cwd := 1 }.note (.moved 1) := by
    obtain ⟨-, -, -, hworld⟩ := run_follows_course sched 1 .new [] (Readings.ofList readings) w
    apply hworld.trans
    simp only [readings, Readings.ofList, ScriptCourse.ofScript_cons, hfirst]
    rfl
  have hscript : (original.run sched 2).2.script = ⟨[], 2⟩ := by
    obtain ⟨-, -, hscript, -⟩ := run_follows_course sched 2 .new [] (Readings.ofList readings) w
    apply hscript.trans
    simp only [readings, Readings.ofList, ScriptCourse.ofScript_cons, hfirst, hsecond]
    rfl
  obtain ⟨-, -, hsame, -, before, behind, -, htold, hblanked⟩ :=
    rejected_line_inert sched .new [] w rfl (hworld ▸ hrejected) 2
  have hreached : 1 < (original.run sched 2).2.script.taken := by
    rw [hscript]
    exact Nat.lt_succ_self 1
  rw [if_pos hreached] at htold
  exact ⟨rfl, hworld ▸ hrejected, hsame, before, behind, htold, hblanked⟩

end Session

end PipeShell

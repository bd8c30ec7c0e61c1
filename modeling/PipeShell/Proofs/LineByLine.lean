import PipeShell.Proofs.LineEffects
import PipeShell.Proofs.Starting

/-!
# A session goes line by line

What a script comes to can be said without a stream of tokens, a reader that is used
again or a list of refused lines: each line is taken alone, in the world that the
lines before it have left, and what is told is put behind what they told.  This is
`course`, and a session with room for all diagnostics keeps to it.
-/

namespace PipeShell

/-- What a line comes to. -/
structure LineCourse where
  /-- Whether another line is read behind it. -/
  goesOn : Bool
  told : Bytes
  world : World

/-- Carries out the command of a line. -/
def LineCourse.ofCommand (sched : Scheduler) (c : Command) (w : World) : LineCourse :=
  match c.settle w with
  | (.nothing, w) => ⟨true, [], w⟩
  | (.leave, w) => ⟨false, [], w⟩
  | (.error e, w) => ⟨true, encode s!"{e.category}: {e.message}\n", w⟩
  | (.run p, w) =>
      let (_, d, w) := p.execute sched .unlimited w
      ⟨true, d.bytes, w⟩

/-- Carries out a line by itself: its tokens and its newline are all that a new reader
is given. -/
def LineCourse.ofBytes (sched : Scheduler) (bytes : Bytes) (w : World) : LineCourse :=
  match Token.ofBytes bytes with
  | .error e => ⟨true, encode s!"lex error: {e.message}\n", w⟩
  | .ok tokens => .ofCommand sched (CommandReader.new.read (Symbol.ofLine tokens)).1 w

/-- What a script comes to: how it ends, if it does, what is told, and what is left. -/
structure ScriptCourse (σ : Type u) where
  result : Option (Except Failure Unit)
  told : Bytes
  script : σ
  world : World

/-- Carries out at most `lines` lines one by one, each in the world that the one before
it has left.  Nothing is read behind the end of the input, a failure or an `exit`. -/
def ScriptCourse.ofScript {σ : Type u} [ScriptSource σ] (sched : Scheduler) (lines : Nat)
    (script : σ) (w : World) : ScriptCourse σ :=
  match lines with
  | 0 => ⟨none, [], script, w⟩
  | left + 1 =>
      match ScriptSource.readLine script w with
      | (.endOfInput, script, w) => ⟨some (.ok ()), [], script, w⟩
      | (.failure cause, script, w) => ⟨some (.error cause), [], script, w⟩
      | (.line bytes, script, w) =>
          let line := LineCourse.ofBytes sched bytes w
          if line.goesOn then
            let rest := ofScript sched left script line.world
            { rest with told := line.told ++ rest.told }
          else ⟨some (.ok ()), line.told, script, line.world⟩

/-! ## One line -/

theorem Command.children_settle (c : Command) (w : World) :
    (c.settle w).2.children = w.children := by
  cases c with
  | changeDirectory directory =>
      simp only [settle]
      split
      next w' hmoved =>
        obtain ⟨-, -, hmoved⟩ := exists_of_bind_eq_ok hmoved
        split at hmoved
        · cases hmoved
          rfl
        · cases hmoved
      next => rfl
  | _ => rfl

/-- All that a line starts is waited for before the next line is read. -/
theorem LineCourse.children_ofBytes (sched : Scheduler) (bytes : Bytes) (w : World) :
    (ofBytes sched bytes w).world.children.Perm w.children := by
  unfold ofBytes
  split
  · exact .refl _
  next tokens _ =>
    have hsettle := ((CommandReader.new.read (Symbol.ofLine tokens)).1).children_settle w
    unfold ofCommand
    split <;> rename_i hcommand <;> rw [hcommand] at hsettle
    · exact .of_eq hsettle
    · exact .of_eq hsettle
    · exact .of_eq hsettle
    next p w' =>
      exact (Pipeline.waited_execute_start sched p .unlimited w').children.trans
        (.of_eq hsettle)

theorem ScriptCourse.isSome_result_ofReadings (sched : Scheduler) (readings : List LineReading)
    (taken more : Nat) (w : World) :
    (ofScript sched (readings.length + 1 + more) (Readings.mk readings taken)
      w).result.isSome := by
  induction readings generalizing taken w with
  | nil =>
      rw [List.length_nil, Nat.zero_add, Nat.add_comm]
      rfl
  | cons reading rest ih =>
      have hlength : (reading :: rest).length + 1 + more = (rest.length + 1 + more) + 1 := by
        rw [List.length_cons]
        omega
      have hread : ScriptSource.readLine (Readings.mk (reading :: rest) taken) w =
          (reading, ⟨rest, taken + 1⟩, w) := rfl
      rw [hlength, ofScript, hread]
      cases reading with
      | endOfInput => rfl
      | failure cause => rfl
      | line bytes =>
          dsimp only
          split
          · exact ih _ _
          · rfl

/-! ## With room for all diagnostics -/

theorem LineEffect.ofCommand_kept (sched : Scheduler) (c : Command) (b : Bytes) (w : World) :
    ofCommand sched c (.kept b none) w =
      ⟨(LineCourse.ofCommand sched c w).goesOn, none,
        .kept (b ++ (LineCourse.ofCommand sched c w).told) none,
        (LineCourse.ofCommand sched c w).world⟩ := by
  rcases hsettle : c.settle w with ⟨outcome, w'⟩
  cases outcome with
  | nothing => simp [ofCommand, LineCourse.ofCommand, hsettle]
  | leave => simp [ofCommand, LineCourse.ofCommand, hsettle]
  | error e =>
      simp only [ofCommand, LineCourse.ofCommand, hsettle]
      rfl
  | run p =>
      simp only [ofCommand, LineCourse.ofCommand, hsettle]
      rw [Pipeline.execute_kept]

theorem LineEffect.ofBytes_kept (sched : Scheduler) (bytes b : Bytes) (w : World) :
    ofBytes sched bytes (.kept b none) w =
      ⟨(LineCourse.ofBytes sched bytes w).goesOn, none,
        .kept (b ++ (LineCourse.ofBytes sched bytes w).told) none,
        (LineCourse.ofBytes sched bytes w).world⟩ := by
  cases htokens : Token.ofBytes bytes with
  | error e =>
      simp only [ofBytes, LineCourse.ofBytes, htokens]
      rfl
  | ok tokens =>
      simp only [ofBytes, LineCourse.ofBytes, htokens]
      exact ofCommand_kept sched _ b w

theorem LineCourse.goesOn_ofBytes_eq_false_iff {sched : Scheduler} {bytes : Bytes}
    {w : World} :
    (ofBytes sched bytes w).goesOn = false ↔ Token.ofBytes bytes = .ok [.word "exit"] := by
  have hkept := congrArg LineEffect.goesOn (LineEffect.ofBytes_kept sched bytes [] w)
  dsimp only at hkept
  rw [← hkept]
  exact LineEffect.goesOn_ofBytes_eq_false_iff

theorem ScriptEffect.ofScript_kept {σ : Type u} [ScriptSource σ] (sched : Scheduler)
    (lines : Nat) (b : Bytes) (script : σ) (w : World) :
    ofScript sched lines (.kept b none) script w =
      ⟨(ScriptCourse.ofScript sched lines script w).result, none,
        .kept (b ++ (ScriptCourse.ofScript sched lines script w).told) none,
        (ScriptCourse.ofScript sched lines script w).script,
        (ScriptCourse.ofScript sched lines script w).world⟩ := by
  induction lines generalizing b script w with
  | zero => simp [ofScript, ScriptCourse.ofScript]
  | succ left ih =>
      rcases hread : ScriptSource.readLine script w with ⟨reading, script', w'⟩
      cases reading with
      | endOfInput => simp [ofScript, ScriptCourse.ofScript, hread]
      | failure cause => simp [ofScript, ScriptCourse.ofScript, hread]
      | line bytes =>
          simp only [ofScript, ScriptCourse.ofScript, hread, LineEffect.ofBytes_kept, ih]
          cases (LineCourse.ofBytes sched bytes w').goesOn <;> simp

namespace Session

variable {σ : Type u} [ScriptSource σ]

/-- After any number of lines a session stands where its course does. -/
theorem run_follows_course (sched : Scheduler) (lines : Nat) (reader : CommandReader)
    (b : Bytes) (script : σ) (w : World) :
    ((begin reader (.kept b none) script w).run sched lines).1 =
        (ScriptCourse.ofScript sched lines script w).result ∧
      ((begin reader (.kept b none) script w).run sched lines).2.diagnostics =
        .kept (b ++ (ScriptCourse.ofScript sched lines script w).told) none ∧
      ((begin reader (.kept b none) script w).run sched lines).2.script =
        (ScriptCourse.ofScript sched lines script w).script ∧
      ((begin reader (.kept b none) script w).run sched lines).2.world =
        (ScriptCourse.ofScript sched lines script w).world := by
  have heffect := ScriptEffect.ofScript_kept sched lines b script w
  have hfollows := run_follows_effect sched lines reader (.kept b none) script w
  obtain ⟨hresult, hstands⟩ := hfollows.told (by rw [heffect])
  rw [heffect] at hresult hstands
  exact ⟨hresult, hstands.diagnostics, hstands.script, hstands.world⟩

/-- With room for all diagnostics a session does what its lines come to one by one, each
in the world that the lines before it have left, with their processes waited for; only
`exit`, the end of the script or its failure ends it, and a finite script comes to its
end. -/
theorem goes_line_by_line (sched : Scheduler) (reader : CommandReader) (b : Bytes)
    (script : σ) (w : World) :
    (∀ lines,
      let course := ScriptCourse.ofScript sched lines script w
      let ended := (begin reader (.kept b none) script w).run sched lines
      ended.1 = course.result ∧ ended.2.diagnostics = .kept (b ++ course.told) none ∧
        ended.2.script = course.script ∧ ended.2.world = course.world) ∧
      (∀ bytes w,
        let line := LineCourse.ofBytes sched bytes w
        line.world.children.Perm w.children ∧
          (line.goesOn = false ↔ Token.ofBytes bytes = .ok [.word "exit"])) ∧
      ∀ readings more,
        ((begin reader (.kept b none) (Readings.ofList readings) w).run sched
          (readings.length + 1 + more)).1.isSome := by
  refine ⟨fun lines ↦ run_follows_course sched lines reader b script w, fun bytes w ↦ ?_,
    fun readings more ↦ ?_⟩
  · exact ⟨LineCourse.children_ofBytes sched bytes w, LineCourse.goesOn_ofBytes_eq_false_iff⟩
  · obtain ⟨hresult, -⟩ := run_follows_course sched (readings.length + 1 + more)
      reader b (Readings.ofList readings) w
    rw [hresult]
    exact ScriptCourse.isSome_result_ofReadings sched readings 0 more w

end Session

end PipeShell

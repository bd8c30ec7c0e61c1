import PipeShell.Proofs.LineEffects
import PipeShell.Proofs.LineReadings

/-!
# Reports that cannot be written

A session that cannot tell of a line it turned down is over, with the failure of its
diagnostics, and the lines behind that one are neither read nor carried out.  What a
pipeline has to tell can be lost without consequence.  So a session goes through its
script exactly when all that it has to tell by itself can be written.
-/

namespace PipeShell

namespace ScriptEffect

variable {σ : Type u} [ScriptSource σ]

theorem length_given_of_readLine {script script' : Watched σ} {w w' : World}
    {reading : LineReading} (h : ScriptSource.readLine script w = (reading, script', w')) :
    script'.given.length = script.given.length + 1 := by
  rw [Watched.given_of_readLine h, List.length_append, List.length_singleton]

/-- As long as the script has not come to its end, each line has taken one reading. -/
theorem length_given_of_result (sched : Scheduler) (lines : Nat) (d : Diagnostics)
    (script : Watched σ) (w : World) (h : (ofScript sched lines d script w).result = none) :
    (ofScript sched lines d script w).script.given.length = script.given.length + lines := by
  induction lines generalizing d script w with
  | zero => rfl
  | succ left ih =>
      rcases hread : ScriptSource.readLine script w with ⟨reading, script', w'⟩
      have hgiven := length_given_of_readLine hread
      cases reading with
      | endOfInput => simp [ofScript_endOfInput sched left d hread] at h
      | failure cause => simp [ofScript_failure sched left d hread] at h
      | line bytes =>
          cases hgoes : (LineEffect.ofBytes sched bytes d w').goesOn with
          | false => simp [ofScript_exit left hread hgoes] at h
          | true =>
              rw [ofScript_line left hread hgoes] at h ⊢
              have hrest := ih _ script' _ h
              dsimp only
              omega

/-- A script that has come to its end has been read more often than it had been before. -/
theorem length_given_lt_of_result (sched : Scheduler) (lines done : Nat) (d : Diagnostics)
    (script : Watched σ) (w : World) (hended : (ofScript sched lines d script w).result ≠ none)
    (hdone : (ofScript sched done d script w).result = none) :
    script.given.length + done < (ofScript sched lines d script w).script.given.length := by
  induction lines generalizing done d script w with
  | zero => exact absurd rfl hended
  | succ left ih =>
      rcases hread : ScriptSource.readLine script w with ⟨reading, script', w'⟩
      have hgiven := length_given_of_readLine hread
      cases reading with
      | endOfInput =>
          cases done with
          | zero => simp [ofScript_endOfInput sched left d hread, hgiven]
          | succ n => simp [ofScript_endOfInput sched n d hread] at hdone
      | failure cause =>
          cases done with
          | zero => simp [ofScript_failure sched left d hread, hgiven]
          | succ n => simp [ofScript_failure sched n d hread] at hdone
      | line bytes =>
          cases hgoes : (LineEffect.ofBytes sched bytes d w').goesOn with
          | false =>
              cases done with
              | zero => simp [ofScript_exit left hread hgoes, hgiven]
              | succ n => simp [ofScript_exit n hread hgoes] at hdone
          | true =>
              rw [ofScript_line left hread hgoes] at hended ⊢
              dsimp only at hended ⊢
              cases done with
              | zero =>
                  have hrest := ih 0 _ script' _ hended rfl
                  omega
              | succ n =>
                  rw [ofScript_line n hread hgoes] at hdone
                  have hrest := ih n _ script' _ hended hdone
                  omega

end ScriptEffect

namespace Session

variable {σ : Type u} [ScriptSource σ]

/-- A session reads all lines of its script and ends as the script does exactly when it
could tell of every line that it turned down; otherwise it ends with the first failure to
do so, behind that line. -/
theorem goes_through_iff (sched : Scheduler) (lines : Nat) (reader : CommandReader)
    (d : Diagnostics) (script : σ) (w : World) :
    let effect (lines : Nat) := ScriptEffect.ofScript sched lines d (Watched.mk script []) w
    let ended := (begin reader d (Watched.mk script []) w).run sched lines
    (ended.1 = (effect lines).result ∧ ended.2.script.given = (effect lines).script.given ↔
        (effect lines).lost = none) ∧
      Follows ended effect lines := by
  intro effect ended
  have hfollows : Follows ended effect lines :=
    run_follows_effect sched lines reader d (Watched.mk script []) w
  refine ⟨⟨?_, ?_⟩, hfollows⟩
  · rintro ⟨hresult, hgiven⟩
    cases hlost : (effect lines).lost with
    | none => rfl
    | some f =>
        obtain ⟨hfailed, done, -, hunended, hstands⟩ := hfollows.untold f hlost
        have hsome : (effect lines).result ≠ none := by
          rw [← hresult, hfailed]
          exact Option.some_ne_none _
        have hmore : 0 + done < (effect lines).script.given.length :=
          ScriptEffect.length_given_lt_of_result sched lines done d _ w hsome hunended
        have hstopped : (effect done).script.given.length = 0 + done :=
          ScriptEffect.length_given_of_result sched done d _ w hunended
        have hsame : (effect done).script.given = (effect lines).script.given := by
          rw [← hstands.script, hgiven]
        have hlength := congrArg List.length hsame
        omega
  · intro hlost
    obtain ⟨hresult, hstands⟩ := hfollows.told hlost
    exact ⟨hresult, congrArg Watched.given hstands.script⟩

/-- No byte of a diagnostic can be written.  The first line is turned down, and the `cd`
behind it is never read. -/
theorem not_goes_through_full :
    let script := Readings.ofList [.line (encode "|"), .line (encode "cd d")]
    let w : World :=
      ⟨⟨⟨#[.directory [("d", 1)] 0 0o777, .directory [] 0 0o777]⟩, #[], #[], #[], 0⟩, ⟨[]⟩,
        Tree.root, [], #[], [], .none⟩
    let sched : Scheduler := ⟨fun w _ ↦ (.exited 0, w.machine)⟩
    let effect := ScriptEffect.ofScript sched 3 (.limited 0) (Watched.mk script []) w
    let ended := (begin .new (.limited 0) (Watched.mk script []) w).run sched 3
    effect.result = some (.ok ()) ∧ effect.world.cwd = 1 ∧
      effect.script.given = [.line (encode "|"), .line (encode "cd d"), .endOfInput] ∧
      ended.1 = some (.error Diagnostics.full) ∧ ended.2.world.cwd = Tree.root ∧
      ended.2.script.given = [.line (encode "|")] := by
  intro script w sched effect ended
  have hpipe : Token.ofBytes (encode "|") = .ok [.pipe] := by cbv
  have hcd : Token.ofBytes (encode "cd d") = .ok [.word "cd", .word "d"] := by cbv
  have hrefused : (CommandReader.new.read (Symbol.ofLine [.pipe])).1 =
      .refused .noInitialProgram := by cbv
  have hmove : (CommandReader.new.read (Symbol.ofLine [.word "cd", .word "d"])).1 =
      .changeDirectory "d" := by cbv
  have hmoved : w.changeDirectory "d" = .ok ({ w with cwd := 1 }.note (.moved 1)) := by
    simp only [w]
    cbv
  have hfirst : LineEffect.ofBytes sched (encode "|") (.limited 0) w =
      ⟨true, some Diagnostics.full, .limited 0, w⟩ := by
    have htext :
        s!"{CommandError.noInitialProgram.category}: {CommandError.noInitialProgram.message}\n" =
          "parse error: no initial program to run.\n" := rfl
    simp only [LineEffect.ofBytes, hpipe, LineEffect.ofCommand, hrefused, Command.settle, htext]
    cbv
  have hsecond : LineEffect.ofBytes sched (encode "cd d") (.limited 0) w =
      ⟨true, none, .limited 0, { w with cwd := 1 }.note (.moved 1)⟩ := by
    simp only [LineEffect.ofBytes, hcd, LineEffect.ofCommand, hmove, Command.settle, hmoved]
  have heffect : effect = ⟨some (.ok ()), some Diagnostics.full, .limited 0,
      ⟨⟨[], 3⟩, [.line (encode "|"), .line (encode "cd d"), .endOfInput]⟩,
      { w with cwd := 1 }.note (.moved 1)⟩ := by
    simp only [effect]
    rw [ScriptEffect.ofScript_line 2 rfl (by rw [hfirst]), hfirst]
    dsimp only
    rw [ScriptEffect.ofScript_line 1 rfl (by rw [hsecond]), hsecond]
    dsimp only
    rw [ScriptEffect.ofScript_endOfInput sched 0 _ rfl]
    rfl
  have hread : ScriptSource.readLine (Watched.mk script []) w =
      (.line (encode "|"), ⟨⟨[.line (encode "cd d")], 1⟩, [.line (encode "|")]⟩, w) := rfl
  obtain ⟨reader, hstep⟩ := step_line sched hread .new (.limited 0)
  have hended : ended = (some (.error Diagnostics.full),
      begin reader (.limited 0) ⟨⟨[.line (encode "cd d")], 1⟩, [.line (encode "|")]⟩ w) := by
    simp only [ended, run, hstep, hfirst, LineEffect.result?]
  rw [heffect, hended]
  exact ⟨rfl, rfl, rfl, rfl, rfl, rfl⟩

end Session

end PipeShell

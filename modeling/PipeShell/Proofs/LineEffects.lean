import PipeShell.Proofs.Awaiting
import PipeShell.Proofs.BuiltIns
import PipeShell.Proofs.ReaderRoom
import PipeShell.Session

/-!
# What lines do, whether or not it can be told

A line does something to the world and has something told of it, and the telling may fail.
`ScriptEffect` carries out the lines of a script one by one, each to its end, and keeps
the first failure to tell of one.  A session does the same up to that failure: if there is
none it comes to what its lines come to, and otherwise it stops right behind the line that
could not be told of.
-/

namespace PipeShell

/-- What a line does. -/
structure LineEffect where
  /-- Whether another line is read behind it. -/
  goesOn : Bool
  /-- Why what the session itself had to tell of the line could not be written. -/
  lost : Option Failure
  diagnostics : Diagnostics
  world : World

namespace LineEffect

/-- Tells of a line that has come to nothing else. -/
def telling (text : String) (d : Diagnostics) (w : World) : LineEffect :=
  match d.write w text with
  | (.ok (), d, w) => ⟨true, none, d, w⟩
  | (.error f, d, w) => ⟨true, some f, d, w⟩

/-- Carries out the command of a line. -/
def ofCommand (sched : Scheduler) (c : Command) (d : Diagnostics) (w : World) : LineEffect :=
  match c.settle w with
  | (.nothing, w) => ⟨true, none, d, w⟩
  | (.leave, w) => ⟨false, none, d, w⟩
  | (.error e, w) => telling s!"{e.category}: {e.message}\n" d w
  | (.run p, w) =>
      let (_, d, w) := p.execute sched d w
      ⟨true, none, d, w⟩

/-- Carries out a line by itself: its tokens and its newline are all that a new reader is
given. -/
def ofBytes (sched : Scheduler) (bytes : Bytes) (d : Diagnostics) (w : World) : LineEffect :=
  match Token.ofBytes bytes with
  | .error e => telling s!"lex error: {e.message}\n" d w
  | .ok tokens => ofCommand sched (CommandReader.new.read (Symbol.ofLine tokens)).1 d w

/-- How a session ends behind the line, if it does. -/
def result? (line : LineEffect) : Option (Except Failure Unit) :=
  match line.lost, line.goesOn with
  | some f, _ => some (.error f)
  | none, true => none
  | none, false => some (.ok ())

theorem goesOn_telling (text : String) (d : Diagnostics) (w : World) :
    (telling text d w).goesOn = true := by
  unfold telling
  split <;> rfl

/-- Commands that differ in their room do the same. -/
theorem ofCommand_congr {c c' : Command} (h : c.fitted = c'.fitted) (sched : Scheduler)
    (d : Diagnostics) (w : World) : ofCommand sched c d w = ofCommand sched c' d w := by
  obtain rfl | ⟨p, p', rfl, rfl, hp⟩ := Command.cases_of_fitted_eq h
  · rfl
  · have hrun : p.execute sched = p'.execute sched := by
      rw [← p.execute_fitted, hp, p'.execute_fitted]
    simp only [ofCommand, Command.settle, hrun]

theorem goesOn_ofCommand_eq_false_iff {sched : Scheduler} {c : Command} {d : Diagnostics}
    {w : World} : (ofCommand sched c d w).goesOn = false ↔ c = .leave := by
  cases c with
  | changeDirectory directory =>
      simp only [ofCommand, Command.settle]
      cases w.changeDirectory directory <;> simp [goesOn_telling]
  | _ => simp [ofCommand, Command.settle, goesOn_telling]

/-- Whatever it asks for and however that turns out, only `exit` is the last line. -/
theorem goesOn_ofBytes_eq_false_iff {sched : Scheduler} {bytes : Bytes} {d : Diagnostics}
    {w : World} :
    (ofBytes sched bytes d w).goesOn = false ↔ Token.ofBytes bytes = .ok [.word "exit"] := by
  unfold ofBytes
  split
  next e htokens => simp [htokens, goesOn_telling]
  next tokens htokens =>
    have hleave := CommandReader.read_ofLine_eq_leave_iff .new tokens []
    rw [List.append_nil] at hleave
    rw [goesOn_ofCommand_eq_false_iff, hleave, htokens, Except.ok.injEq]

/-- A line behind which none is read has nothing told of it. -/
theorem lost_of_not_goesOn {sched : Scheduler} {bytes : Bytes} {d : Diagnostics} {w : World}
    (h : (ofBytes sched bytes d w).goesOn = false) : (ofBytes sched bytes d w).lost = none := by
  unfold ofBytes at h ⊢
  split at h
  · rw [goesOn_telling] at h
    cases h
  · unfold ofCommand at h ⊢
    split at h
    · rfl
    · rfl
    · rw [goesOn_telling] at h
      cases h
    · rfl

end LineEffect

/-- What a script does: how it ends, if it does, the first failure to tell of a line, and
what is left. -/
structure ScriptEffect (σ : Type u) where
  result : Option (Except Failure Unit)
  lost : Option Failure
  diagnostics : Diagnostics
  script : σ
  world : World

/-- Carries out at most `lines` lines one by one, each in the world and with the diagnostics
that the one before it has left, and whether or not that one could be told of.  Nothing is
read behind the end of the input, a failure or an `exit`. -/
def ScriptEffect.ofScript {σ : Type u} [ScriptSource σ] (sched : Scheduler) (lines : Nat)
    (d : Diagnostics) (script : σ) (w : World) : ScriptEffect σ :=
  match lines with
  | 0 => ⟨none, none, d, script, w⟩
  | left + 1 =>
      match ScriptSource.readLine script w with
      | (.endOfInput, script, w) => ⟨some (.ok ()), none, d, script, w⟩
      | (.failure cause, script, w) => ⟨some (.error cause), none, d, script, w⟩
      | (.line bytes, script, w) =>
          let line := LineEffect.ofBytes sched bytes d w
          if line.goesOn then
            let rest := ofScript sched left line.diagnostics script line.world
            { rest with lost := line.lost.or rest.lost }
          else ⟨some (.ok ()), line.lost, line.diagnostics, script, line.world⟩

namespace ScriptEffect

variable {σ : Type u} [ScriptSource σ] {script script' : σ} {w w' : World}

theorem ofScript_endOfInput (sched : Scheduler) (left : Nat) (d : Diagnostics)
    (hread : ScriptSource.readLine script w = (.endOfInput, script', w')) :
    ofScript sched (left + 1) d script w = ⟨some (.ok ()), none, d, script', w'⟩ := by
  rw [ofScript, hread]

theorem ofScript_failure (sched : Scheduler) (left : Nat) (d : Diagnostics) {cause : Failure}
    (hread : ScriptSource.readLine script w = (.failure cause, script', w')) :
    ofScript sched (left + 1) d script w = ⟨some (.error cause), none, d, script', w'⟩ := by
  rw [ofScript, hread]

variable {sched : Scheduler} {d : Diagnostics} {bytes : Bytes}

theorem ofScript_exit (left : Nat)
    (hread : ScriptSource.readLine script w = (.line bytes, script', w'))
    (hgoes : (LineEffect.ofBytes sched bytes d w').goesOn = false) :
    ofScript sched (left + 1) d script w =
      ⟨some (.ok ()), none, (LineEffect.ofBytes sched bytes d w').diagnostics, script',
        (LineEffect.ofBytes sched bytes d w').world⟩ := by
  rw [ofScript, hread]
  simp [hgoes, LineEffect.lost_of_not_goesOn hgoes]

theorem ofScript_line (left : Nat)
    (hread : ScriptSource.readLine script w = (.line bytes, script', w'))
    (hgoes : (LineEffect.ofBytes sched bytes d w').goesOn = true) :
    let line := LineEffect.ofBytes sched bytes d w'
    let rest := ofScript sched left line.diagnostics script' line.world
    ofScript sched (left + 1) d script w = { rest with lost := line.lost.or rest.lost } := by
  rw [ofScript, hread]
  simp [hgoes]

end ScriptEffect

namespace Session

variable {σ : Type u}

/-- The session behind the reading of a line, of which nothing has been told yet. -/
def behindReading (s : Session σ) (reader : CommandReader) (stream : TokenStream (σ × World))
    (w : World) : Session σ :=
  { s with reader, stream := stream.takeRejected.2 }.withWorld w

/-- Carries out what a line has come to. -/
def carryOut (sched : Scheduler) (s : Session σ) :
    Outcome → Option (Except Failure Unit) × Session σ
  | .nothing => (none, s)
  | .leave => (some s.close.1, s.close.2)
  | .error e =>
      match s.tell s!"{e.category}: {e.message}\n" with
      | (.ok (), s) => (none, s)
      | (.error f, s) => (some (.error f), s)
  | .run p => (none, s.runPipeline sched p)

theorem step_eq [ScriptSource σ] (sched : Scheduler) (s : Session σ) {command : Command}
    {reader : CommandReader} {stream : TokenStream (σ × World)} {outcome : Outcome} {w : World}
    (hread : s.reader.read s.stream = (command, reader, stream))
    (hsettle : command.settle stream.source.2 = (outcome, w)) :
    s.step sched =
      match (s.behindReading reader stream w).tellRejected stream.takeRejected.1 with
      | (.error f, s) => (some (.error f), s)
      | (.ok (), s) => s.carryOut sched outcome := by
  rw [step, hread]
  dsimp only
  rw [hsettle]
  cases outcome <;> rfl

theorem run_of_goes [ScriptSource σ] {sched : Scheduler} {s s' : Session σ}
    (h : s.step sched = (none, s')) (left : Nat) :
    s.run sched (left + 1) = s'.run sched left := by
  rw [run, h]

theorem run_of_ends [ScriptSource σ] {sched : Scheduler} {s s' : Session σ}
    {result : Except Failure Unit} (h : s.step sched = (some result, s')) (left : Nat) :
    s.run sched (left + 1) = (some result, s') := by
  rw [run, h]

/-- Telling of a line, and going on behind it if that succeeds. -/
theorem tell_begin (reader : CommandReader) (d : Diagnostics) (script : σ) (w : World)
    (text : String) :
    (match (begin reader d script w).tell text with
      | (.ok (), s) => (none, s)
      | (.error f, s) => (some (.error f), s) : Option (Except Failure Unit) × Session σ) =
      ((LineEffect.telling text d w).result?,
        begin reader (LineEffect.telling text d w).diagnostics script
          (LineEffect.telling text d w).world) := by
  have htell : (begin reader d script w).tell text =
      ((d.write w text).1, begin reader (d.write w text).2.1 script (d.write w text).2.2) := rfl
  rw [htell, LineEffect.telling]
  rcases d.write w text with ⟨_ | _, d', w'⟩ <;> rfl

theorem tellRejected_singleton (s : Session σ) (e : LineError) :
    s.tellRejected [e] = s.tell s!"lex error: {e.message}\n" := by
  rw [tellRejected]
  rcases s.tell s!"lex error: {e.message}\n" with ⟨_ | _, s'⟩ <;> rfl

/-- The session stands where the effect of lines has led to, apart from how it has ended. -/
structure StandsAt (s : Session σ) (effect : ScriptEffect σ) : Prop where
  diagnostics : s.diagnostics = effect.diagnostics
  script : s.script = effect.script
  world : s.world = effect.world

/-- The session has ended as the effect of its lines has, if all of them could be told of,
and otherwise with the first failure to tell, where a part of these lines has led to. -/
structure Follows (ended : Option (Except Failure Unit) × Session σ)
    (effect : Nat → ScriptEffect σ) (lines : Nat) : Prop where
  told : (effect lines).lost = none →
    ended.1 = (effect lines).result ∧ ended.2.StandsAt (effect lines)
  untold : ∀ f, (effect lines).lost = some f → ended.1 = some (.error f) ∧
    ∃ done ≤ lines, (effect done).result = none ∧ ended.2.StandsAt (effect done)

theorem follows_of_told {ended : Option (Except Failure Unit) × Session σ}
    {effect : Nat → ScriptEffect σ} {lines : Nat} (hlost : (effect lines).lost = none)
    (hresult : ended.1 = (effect lines).result) (hstands : ended.2.StandsAt (effect lines)) :
    Follows ended effect lines := by
  refine ⟨fun _ ↦ ⟨hresult, hstands⟩, fun f hf ↦ ?_⟩
  rw [hlost] at hf
  cases hf

variable [ScriptSource σ] {script script' : σ} {w w' : World} {reader reader' : CommandReader}

/-- A line whose command has been read is carried out, and no trace of it is left in the
session but its diagnostics and its world. -/
theorem step_of_read (sched : Scheduler) (d : Diagnostics) {c : Command}
    (h : reader.read (TokenStream.ofSource (script, w)) =
      (c, reader', TokenStream.ofSource (script', w'))) :
    ∃ reader'', (begin reader d script w).step sched =
      ((LineEffect.ofCommand sched c d w').result?,
        begin reader'' (LineEffect.ofCommand sched c d w').diagnostics script'
          (LineEffect.ofCommand sched c d w').world) := by
  have hread : (begin reader d script w).reader.read (begin reader d script w).stream =
      (c, reader', TokenStream.ofSource (script', w')) := h
  rcases hsettle : c.settle w' with ⟨outcome, w''⟩
  have hstep : (begin reader d script w).step sched =
      (begin reader' d script' w'').carryOut sched outcome := step_eq sched _ hread hsettle
  rw [hstep]
  cases outcome with
  | nothing =>
      simp only [LineEffect.ofCommand, hsettle]
      exact ⟨reader', rfl⟩
  | leave =>
      simp only [LineEffect.ofCommand, hsettle]
      exact ⟨reader', rfl⟩
  | error e =>
      simp only [LineEffect.ofCommand, hsettle]
      exact ⟨reader', tell_begin reader' d script' w'' _⟩
  | run p =>
      simp only [LineEffect.ofCommand, hsettle]
      exact ⟨reader'.recycle p, rfl⟩

/-- A line that gives no tokens is told of, and nothing else comes of it. -/
theorem step_of_read_rejected (sched : Scheduler) (d : Diagnostics) {e : LineError}
    (h : reader.read (TokenStream.ofSource (script, w)) =
      (.nothing, reader', { TokenStream.ofSource (script', w') with rejected := #[e] })) :
    let line := LineEffect.telling s!"lex error: {e.message}\n" d w'
    (begin reader d script w).step sched =
      (line.result?, begin reader' line.diagnostics script' line.world) := by
  have hread : (begin reader d script w).reader.read (begin reader d script w).stream =
      (.nothing, reader', { TokenStream.ofSource (script', w') with rejected := #[e] }) := h
  intro line
  have hstep : (begin reader d script w).step sched =
      match (begin reader' d script' w').tellRejected [e] with
      | (.error f, s) => (some (.error f), s)
      | (.ok (), s) => (none, s) := step_eq sched _ hread rfl
  rw [hstep, tellRejected_singleton, ← tell_begin reader' d script' w']
  rcases (begin reader' d script' w').tell _ with ⟨_ | _, s⟩ <;> rfl

theorem readLine_pair {reading : LineReading}
    (h : ScriptSource.readLine script w = (reading, script', w')) :
    LineSource.readLine (script, w) = (reading, (script', w')) := by
  have hpair : LineSource.readLine (script, w) =
      ((ScriptSource.readLine script w).1, (ScriptSource.readLine script w).2) := rfl
  rw [hpair, h]

/-- Between two lines, a session that reads a line does what the line by itself does, and
then stands between two lines again. -/
theorem step_line (sched : Scheduler) {bytes : Bytes}
    (hread : ScriptSource.readLine script w = (.line bytes, script', w'))
    (reader : CommandReader) (d : Diagnostics) :
    ∃ reader', (begin reader d script w).step sched =
      ((LineEffect.ofBytes sched bytes d w').result?,
        begin reader' (LineEffect.ofBytes sched bytes d w').diagnostics script'
          (LineEffect.ofBytes sched bytes d w').world) := by
  have hpair := readLine_pair hread
  cases htokens : Token.ofBytes bytes with
  | error e =>
      obtain ⟨reader', hreader⟩ := CommandReader.read_of_takeLine
        (TokenStream.takeLine_rejected (s := .ofSource (script, w)) rfl rfl hpair htokens) reader
      simp only [LineEffect.ofBytes, htokens]
      exact ⟨reader', step_of_read_rejected sched d hreader⟩
  | ok tokens =>
      obtain ⟨reader', hreader⟩ := CommandReader.read_of_takeLine
        (TokenStream.takeLine_line (s := .ofSource (script, w)) rfl rfl hpair htokens) reader
      have heffect : LineEffect.ofBytes sched bytes d w' = .ofCommand sched
          ((LineState.ofTokens reader.buffer.clear tokens).finish .newline) d w' := by
        have hnew := CommandReader.read_ofLine .new tokens []
        rw [List.append_nil] at hnew
        simp only [LineEffect.ofBytes, htokens, hnew]
        exact LineEffect.ofCommand_congr (Command.fitted_ofTokens _ _ tokens .newline) sched d w'
      rw [heffect]
      exact step_of_read sched d hreader

/-- Behind the last line a session is over, without a further word. -/
theorem step_ended (sched : Scheduler) (d : Diagnostics) {failure : Option Failure}
    (h : reader.read (TokenStream.ofSource (script, w)) =
      (.leave, reader', { TokenStream.ofSource (script', w') with finished := true, failure })) :
    ∃ s, (begin reader d script w).step sched =
        (some (failure.elim (.ok ()) .error), s) ∧
      s.diagnostics = d ∧ s.script = script' ∧ s.world = w' := by
  have hread : (begin reader d script w).reader.read (begin reader d script w).stream =
      (.leave, reader', { TokenStream.ofSource (script', w') with finished := true, failure }) :=
    h
  rw [step_eq sched _ hread rfl]
  refine ⟨_, Prod.ext ?_ rfl, rfl, rfl, rfl⟩
  cases failure <;> rfl

theorem step_endOfInput (sched : Scheduler)
    (hread : ScriptSource.readLine script w = (.endOfInput, script', w'))
    (reader : CommandReader) (d : Diagnostics) :
    ∃ s, (begin reader d script w).step sched = (some (.ok ()), s) ∧
      s.diagnostics = d ∧ s.script = script' ∧ s.world = w' := by
  obtain ⟨reader', hreader⟩ := CommandReader.read_of_takeLine
    (TokenStream.takeLine_endOfInput (s := .ofSource (script, w)) rfl rfl (readLine_pair hread))
    reader
  exact step_ended sched d hreader

theorem step_failure (sched : Scheduler) {cause : Failure}
    (hread : ScriptSource.readLine script w = (.failure cause, script', w'))
    (reader : CommandReader) (d : Diagnostics) :
    ∃ s, (begin reader d script w).step sched = (some (.error cause), s) ∧
      s.diagnostics = d ∧ s.script = script' ∧ s.world = w' := by
  obtain ⟨reader', hreader⟩ := CommandReader.read_of_takeLine
    (TokenStream.takeLine_failure (s := .ofSource (script, w)) rfl rfl (readLine_pair hread))
    reader
  exact step_ended sched d hreader

/-- A session goes on behind a line that could be told of, and stops at one that could not. -/
theorem follows_line (sched : Scheduler) {bytes : Bytes} {d : Diagnostics} {left : Nat}
    (hread : ScriptSource.readLine script w = (.line bytes, script', w'))
    (hgoes : (LineEffect.ofBytes sched bytes d w').goesOn = true)
    (hstep : (begin reader d script w).step sched =
      ((LineEffect.ofBytes sched bytes d w').result?,
        begin reader' (LineEffect.ofBytes sched bytes d w').diagnostics script'
          (LineEffect.ofBytes sched bytes d w').world))
    (hrest : Follows
      ((begin reader' (LineEffect.ofBytes sched bytes d w').diagnostics script'
        (LineEffect.ofBytes sched bytes d w').world).run sched left)
      (ScriptEffect.ofScript sched · (LineEffect.ofBytes sched bytes d w').diagnostics script'
        (LineEffect.ofBytes sched bytes d w').world) left) :
    Follows ((begin reader d script w).run sched (left + 1))
      (ScriptEffect.ofScript sched · d script w) (left + 1) := by
  have heffect := fun n ↦ ScriptEffect.ofScript_line n hread hgoes
  generalize LineEffect.ofBytes sched bytes d w' = line at hgoes hstep hrest heffect
  cases hlost : line.lost with
  | some f' =>
      have hended : (begin reader d script w).run sched (left + 1) =
          (some (.error f'), begin reader' line.diagnostics script' line.world) := by
        simp only [LineEffect.result?, hlost] at hstep
        exact run_of_ends hstep left
      rw [hended]
      refine ⟨fun hnone ↦ ?_, fun f hf ↦ ?_⟩
      · simp [heffect, hlost] at hnone
      · obtain rfl : f' = f := by simpa [heffect, hlost] using hf
        refine ⟨rfl, 1, by omega, ?_⟩
        rw [heffect]
        exact ⟨rfl, rfl, rfl, rfl⟩
  | none =>
      have hended : (begin reader d script w).run sched (left + 1) =
          (begin reader' line.diagnostics script' line.world).run sched left := by
        simp only [LineEffect.result?, hgoes, hlost] at hstep
        exact run_of_goes hstep left
      rw [hended]
      refine ⟨fun hnone ↦ ?_, fun f hf ↦ ?_⟩
      · obtain ⟨hresult, hstands⟩ := hrest.told (by simpa [heffect, hlost] using hnone)
        rw [heffect]
        exact ⟨hresult, hstands.diagnostics, hstands.script, hstands.world⟩
      · obtain ⟨hresult, done, hdone, hunended, hstands⟩ :=
          hrest.untold f (by simpa [heffect, hlost] using hf)
        refine ⟨hresult, done + 1, by omega, ?_⟩
        rw [heffect]
        exact ⟨hunended, hstands.diagnostics, hstands.script, hstands.world⟩

/-- A session of which every line can be told does what its lines do; the first one that
cannot be told of ends it with that failure, where the lines up to it have led to. -/
theorem run_follows_effect (sched : Scheduler) (lines : Nat) (reader : CommandReader)
    (d : Diagnostics) (script : σ) (w : World) :
    Follows ((begin reader d script w).run sched lines)
      (ScriptEffect.ofScript sched · d script w) lines := by
  -- Between two lines the session is one that has just begun, with other diagnostics.
  induction lines generalizing reader d script w with
  | zero => exact follows_of_told rfl rfl ⟨rfl, rfl, rfl⟩
  | succ left ih =>
      rcases hread : ScriptSource.readLine script w with ⟨reading, script', w'⟩
      cases reading with
      | endOfInput =>
          have heffect := ScriptEffect.ofScript_endOfInput sched left d hread
          obtain ⟨s, hstep, hdiagnostics, hscript, hworld⟩ :=
            step_endOfInput sched hread reader d
          rw [run_of_ends hstep left]
          apply follows_of_told <;> rw [heffect]
          exact ⟨hdiagnostics, hscript, hworld⟩
      | failure cause =>
          have heffect := ScriptEffect.ofScript_failure sched left d hread
          obtain ⟨s, hstep, hdiagnostics, hscript, hworld⟩ :=
            step_failure sched hread reader d
          rw [run_of_ends hstep left]
          apply follows_of_told <;> rw [heffect]
          exact ⟨hdiagnostics, hscript, hworld⟩
      | line bytes =>
          obtain ⟨reader', hstep⟩ := step_line sched hread reader d
          cases hgoes : (LineEffect.ofBytes sched bytes d w').goesOn with
          | false =>
              have heffect := ScriptEffect.ofScript_exit left hread hgoes
              have hlost := LineEffect.lost_of_not_goesOn hgoes
              simp only [LineEffect.result?, hgoes, hlost] at hstep
              rw [run_of_ends hstep left]
              apply follows_of_told <;> rw [heffect]
              exact ⟨rfl, rfl, rfl⟩
          | true => exact follows_line sched hread hgoes hstep (ih _ _ _ _)

end Session

end PipeShell

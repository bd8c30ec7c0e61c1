import PipeShell.Proofs.ByteArrivals
import PipeShell.Proofs.LineByLine
import PipeShell.Proofs.LineReadings

/-!
# A torn line is never run

A session over bytes as they arrive, in pieces of any size and with interruptions, does what
it does over the whole lines that they come to.  When a read fails in the middle of a line,
its bytes are given up, the session ends with that failure, and all that would have arrived
behind it is left where it is.
-/

namespace PipeShell

/-- The source gives these readings, of which the last is the only one that is no line, and
is then in the second state. -/
inductive LineSource.Yields {σ : Type u} [LineSource σ] : σ → List LineReading → σ → Prop where
  | last {s s' : σ} {reading : LineReading} (hread : LineSource.readLine s = (reading, s'))
      (hend : ¬ reading.IsLine) : Yields s [reading] s'
  | line {s s' s'' : σ} {bytes : Bytes} {rest : List LineReading}
      (hread : LineSource.readLine s = (.line bytes, s')) (hrest : Yields s' rest s'') :
      Yields s (.line bytes :: rest) s''

open LineSource (Yields)

namespace BufferedLines

/-- A reader of lines gives the lines that the bytes come to.  Behind a failure it would go on
with what comes behind it. -/
theorem exists_yields (s : BufferedLines Arrivals) (hroom : 0 < s.capacity) :
    ∃ s', Yields s (LineReading.ofArrivals [] s.signs) s' ∧
      ∀ cause, (LineReading.ofArrivals [] s.signs).getLast? = some (.failure cause) →
        ∃ message behind, s.source.failing = .failure message :: behind ∧
          cause = (Failure.ofText message).within "unable to read input line" ∧
          s' = .ofSource ⟨behind⟩ s.capacity := by
  generalize hwhole : LineReading.ofArrivals [] s.signs = whole
  induction whole generalizing s with
  | nil =>
      have hdelivers := s.delivers_readLine hroom
      generalize s.readLine.1 = reading, s.readLine.2 = s' at hdelivers
      cases hdelivers <;> simp_all
  | cons reading rest ih =>
      have hdelivers := s.delivers_readLine hroom
      rcases hread : s.readLine with ⟨given, s'⟩
      rw [hread] at hdelivers
      cases hdelivers with
      | line hreadings hcapacity hfailing =>
          obtain ⟨rfl, hrest⟩ := List.cons.inj (hwhole.symm.trans hreadings)
          obtain ⟨s'', hyields, hends⟩ := ih s' (hcapacity ▸ hroom) hrest.symm
          refine ⟨s'', .line hread hyields, fun cause hlast ↦ ?_⟩
          have hne : rest ≠ [] := by
            rintro rfl
            cases hyields
          rw [List.getLast?_cons_of_ne_nil hne] at hlast
          obtain ⟨message, behind, hmessage, hcause, hsource⟩ := hends cause hlast
          exact ⟨message, behind, hfailing ▸ hmessage, hcause, hcapacity ▸ hsource⟩
      | ended hreadings =>
          obtain ⟨rfl, rfl⟩ := List.cons.inj (hwhole.symm.trans hreadings)
          refine ⟨s', .last hread ?_, ?_⟩
          · simp [LineReading.IsLine]
          · intro cause hlast
            cases hlast
      | @failed message behind hreadings hfailing =>
          obtain ⟨rfl, rfl⟩ := List.cons.inj (hwhole.symm.trans hreadings)
          refine ⟨_, .last hread ?_, ?_⟩
          · simp [LineReading.IsLine]
          · intro cause hlast
            obtain rfl : (Failure.ofText message).within "unable to read input line" = cause := by
              simpa using hlast
            exact ⟨message, behind, hfailing, rfl, rfl⟩

end BufferedLines

/-- Readings that a source yields are yielded by themselves as well. -/
theorem LineSource.Yields.readings {σ : Type u} [LineSource σ] {s s' : σ}
    {whole : List LineReading} (h : Yields s whole s') (taken : Nat) :
    Yields (Readings.mk whole taken) whole ⟨[], taken + whole.length⟩ := by
  induction h generalizing taken with
  | last hread hend => exact .last rfl hend
  | @line s s' s'' bytes rest hread hrest ih =>
      have hcount : taken + (LineReading.line bytes :: rest).length =
          taken + 1 + rest.length := by
        rw [List.length_cons]
        omega
      rw [hcount]
      exact .line rfl (ih (taken + 1))

namespace LineReading

/-- The readings up to the first line that is `exit`, or to the first that is no line. -/
def untilExit : List LineReading → List LineReading
  | .line bytes :: rest =>
      .line bytes :: if Token.ofBytes bytes = .ok [.word "exit"] then [] else untilExit rest
  | reading :: _ => [reading]
  | [] => []

/-- How a session ends behind these readings. -/
def ending (readings : List LineReading) : Except Failure Unit :=
  match readings.getLast? with
  | some (.failure cause) => .error cause
  | _ => .ok ()

theorem untilExit_of_not_isLine {reading : LineReading} (h : ¬ reading.IsLine) :
    untilExit [reading] = [reading] := by
  cases reading with
  | line bytes => exact absurd ⟨bytes, rfl⟩ h
  | _ => rfl

theorem untilExit_ne_nil {σ : Type u} [LineSource σ] {s s' : σ} {whole : List LineReading}
    (h : Yields s whole s') : untilExit whole ≠ [] := by
  cases h with
  | last hread hend =>
      rw [untilExit_of_not_isLine hend]
      exact List.cons_ne_nil _ _
  | line hread hrest => exact List.cons_ne_nil _ _

theorem ending_cons (reading : LineReading) {rest : List LineReading} (h : rest ≠ []) :
    ending (reading :: rest) = ending rest := by
  rw [ending, ending, List.getLast?_cons_of_ne_nil h]

end LineReading

/-! ## What lines do, whatever they are read from -/

namespace ScriptEffect

variable {σ : Type u} [LineSource σ] {s s' : σ} {whole : List LineReading}

theorem readLine_watched {s s' : σ} {reading : LineReading}
    (h : LineSource.readLine s = (reading, s')) (given : List LineReading) (w : World) :
    ScriptSource.readLine (Watched.mk s given) w =
      (reading, Watched.mk s' (given ++ [reading]), w) := by
  have hread : ScriptSource.readLine (Watched.mk s given) w =
      ((LineSource.readLine s).1,
        Watched.mk (LineSource.readLine s).2 (given ++ [(LineSource.readLine s).1]), w) := rfl
  rw [hread, h]

/-- Where lines lead to that a source yields. -/
structure LeadsTo (effect : ScriptEffect (Watched σ)) (given : List LineReading)
    (whole : List LineReading) (lines : Nat) (s' : σ) : Prop where
  given : effect.script.given = given ++ (LineReading.untilExit whole).take lines
  result : effect.result =
    if (LineReading.untilExit whole).length ≤ lines then
      some (LineReading.ending (LineReading.untilExit whole))
    else none
  source : ∀ cause, effect.result = some (.error cause) →
    effect.script.script = s' ∧ whole.getLast? = some (.failure cause)

theorem leadsTo_zero (h : Yields s whole s') (sched : Scheduler) (d : Diagnostics)
    (given : List LineReading) (w : World) :
    LeadsTo (ofScript sched 0 d (Watched.mk s given) w) given whole 0 s' := by
  refine ⟨(List.append_nil given).symm, ?_, ?_⟩
  · have hpos : ¬ (LineReading.untilExit whole).length ≤ 0 := by
      rw [Nat.le_zero, List.length_eq_zero_iff]
      exact LineReading.untilExit_ne_nil h
    rw [if_neg hpos]
    rfl
  · intro cause hresult
    cases hresult

/-- The last reading that a source yields ends what its lines come to. -/
theorem leadsTo_last {reading : LineReading} (hread : LineSource.readLine s = (reading, s'))
    (hend : ¬ reading.IsLine) (sched : Scheduler) (left : Nat) (d : Diagnostics)
    (given : List LineReading) (w : World) :
    LeadsTo (ofScript sched (left + 1) d (Watched.mk s given) w) given [reading] (left + 1) s' := by
  have hwatched := readLine_watched hread given w
  have huntil := LineReading.untilExit_of_not_isLine hend
  have hlength : (LineReading.untilExit [reading]).length ≤ left + 1 := by
    rw [huntil, List.length_singleton]
    omega
  cases reading with
  | line bytes => exact absurd ⟨bytes, rfl⟩ hend
  | endOfInput =>
      rw [ofScript_endOfInput sched left d hwatched]
      refine ⟨?_, ?_, ?_⟩
      · rw [List.take_of_length_le hlength, huntil]
      · rw [if_pos hlength]
        rfl
      · intro cause hresult
        cases hresult
  | failure cause =>
      rw [ofScript_failure sched left d hwatched]
      refine ⟨?_, ?_, ?_⟩
      · rw [List.take_of_length_le hlength, huntil]
      · rw [if_pos hlength]
        rfl
      · intro cause' hresult
        obtain rfl : cause = cause' := by simpa using hresult
        exact ⟨rfl, rfl⟩

/-- Behind a line that is not `exit` the other readings count. -/
theorem leadsTo_line {bytes : Bytes} {rest : List LineReading} {s'' : σ}
    (hread : LineSource.readLine s = (.line bytes, s')) (hrest : Yields s' rest s'')
    {sched : Scheduler} {left : Nat} {d : Diagnostics} {given : List LineReading} {w : World}
    (hgoes : (LineEffect.ofBytes sched bytes d w).goesOn = true)
    (ih : LeadsTo (ofScript sched left (LineEffect.ofBytes sched bytes d w).diagnostics
      (Watched.mk s' (given ++ [.line bytes])) (LineEffect.ofBytes sched bytes d w).world)
      (given ++ [.line bytes]) rest left s'') :
    LeadsTo (ofScript sched (left + 1) d (Watched.mk s given) w) given (.line bytes :: rest)
      (left + 1) s'' := by
  have hexit : Token.ofBytes bytes ≠ .ok [.word "exit"] := by
    intro hexit
    rw [LineEffect.goesOn_ofBytes_eq_false_iff.2 hexit] at hgoes
    cases hgoes
  have huntil : LineReading.untilExit (.line bytes :: rest) =
      .line bytes :: LineReading.untilExit rest := by
    rw [LineReading.untilExit, if_neg hexit]
  have hne := LineReading.untilExit_ne_nil hrest
  rw [ofScript_line left (readLine_watched hread given w) hgoes]
  refine ⟨?_, ?_, ?_⟩
  · rw [huntil, List.take_succ_cons]
    exact ih.given.trans (List.append_assoc ..)
  · rw [huntil, List.length_cons, LineReading.ending_cons _ hne]
    simpa only [Nat.succ_le_succ_iff] using ih.result
  · intro cause hresult
    obtain ⟨hsource, hlast⟩ := ih.source cause hresult
    refine ⟨hsource, ?_⟩
    have hsome : rest ≠ [] := by
      rintro rfl
      cases hrest
    rw [List.getLast?_cons_of_ne_nil hsome]
    exact hlast

theorem leadsTo_exit {bytes : Bytes} (rest : List LineReading) (s'' : σ)
    (hread : LineSource.readLine s = (.line bytes, s'))
    {sched : Scheduler} {left : Nat} {d : Diagnostics} {given : List LineReading} {w : World}
    (hgoes : (LineEffect.ofBytes sched bytes d w).goesOn = false) :
    LeadsTo (ofScript sched (left + 1) d (Watched.mk s given) w) given (.line bytes :: rest)
      (left + 1) s'' := by
  have huntil : LineReading.untilExit (.line bytes :: rest) = [.line bytes] := by
    rw [LineReading.untilExit, if_pos (LineEffect.goesOn_ofBytes_eq_false_iff.1 hgoes)]
  have hlength : [LineReading.line bytes].length ≤ left + 1 := by
    rw [List.length_singleton]
    omega
  rw [ofScript_exit left (readLine_watched hread given w) hgoes]
  refine ⟨?_, ?_, ?_⟩
  · rw [huntil, List.take_of_length_le hlength]
  · rw [huntil, if_pos hlength]
    rfl
  · intro cause hresult
    cases hresult

theorem leadsTo_of_yields (h : Yields s whole s') (sched : Scheduler) (lines : Nat)
    (d : Diagnostics) (given : List LineReading) (w : World) :
    LeadsTo (ofScript sched lines d (Watched.mk s given) w) given whole lines s' := by
  induction h generalizing lines d given w with
  | @last s s' reading hread hend =>
      cases lines with
      | zero => exact leadsTo_zero (.last hread hend) sched d given w
      | succ left => exact leadsTo_last hread hend sched left d given w
  | @line s s' s'' bytes rest hread hrest ih =>
      cases lines with
      | zero => exact leadsTo_zero (.line hread hrest) sched d given w
      | succ left =>
          cases hgoes : (LineEffect.ofBytes sched bytes d w).goesOn with
          | false => exact leadsTo_exit rest s'' hread hgoes
          | true => exact leadsTo_line hread hrest hgoes (ih ..)

end ScriptEffect

namespace Session

variable {σ : Type u} {τ : Type v} [LineSource σ] [LineSource τ]

/-- What a session has come to, apart from the state of its source. -/
structure SameCourse (ended : Option (Except Failure Unit) × Session (Watched σ))
    (ended' : Option (Except Failure Unit) × Session (Watched τ)) : Prop where
  result : ended.1 = ended'.1
  diagnostics : ended.2.diagnostics = ended'.2.diagnostics
  given : ended.2.script.given = ended'.2.script.given
  world : ended.2.world = ended'.2.world

open ScriptEffect (readLine_watched)

theorem sameCourse_last {s s' : σ} {t t' : τ} {reading : LineReading}
    (hread : LineSource.readLine s = (reading, s')) (hread' : LineSource.readLine t = (reading, t'))
    (hend : ¬ reading.IsLine) (sched : Scheduler) (left : Nat) (reader reader' : CommandReader)
    (d : Diagnostics) (given : List LineReading) (w : World) :
    SameCourse ((begin reader d (Watched.mk s given) w).run sched (left + 1))
      ((begin reader' d (Watched.mk t given) w).run sched (left + 1)) := by
  have hwatched := readLine_watched hread given w
  have hwatched' := readLine_watched hread' given w
  cases reading with
  | line bytes => exact absurd ⟨bytes, rfl⟩ hend
  | endOfInput =>
      obtain ⟨e, hstep, hdiagnostics, hscript, hworld⟩ := step_endOfInput sched hwatched reader d
      obtain ⟨e', hstep', hdiagnostics', hscript', hworld'⟩ :=
        step_endOfInput sched hwatched' reader' d
      rw [run_of_ends hstep left, run_of_ends hstep' left]
      exact ⟨rfl, hdiagnostics.trans hdiagnostics'.symm, by rw [hscript, hscript'],
        hworld.trans hworld'.symm⟩
  | failure cause =>
      obtain ⟨e, hstep, hdiagnostics, hscript, hworld⟩ := step_failure sched hwatched reader d
      obtain ⟨e', hstep', hdiagnostics', hscript', hworld'⟩ :=
        step_failure sched hwatched' reader' d
      rw [run_of_ends hstep left, run_of_ends hstep' left]
      exact ⟨rfl, hdiagnostics.trans hdiagnostics'.symm, by rw [hscript, hscript'],
        hworld.trans hworld'.symm⟩

/-- Sessions over sources that yield the same readings take the same course. -/
theorem sameCourse_of_yields {s s' : σ} {t t' : τ} {whole : List LineReading}
    (h : Yields s whole s') (h' : Yields t whole t') (sched : Scheduler) (lines : Nat)
    (reader reader' : CommandReader) (d : Diagnostics) (given : List LineReading) (w : World) :
    SameCourse ((begin reader d (Watched.mk s given) w).run sched lines)
      ((begin reader' d (Watched.mk t given) w).run sched lines) := by
  induction h generalizing t lines reader reader' d given w with
  | @last s s' reading hread hend =>
      cases lines with
      | zero => exact ⟨rfl, rfl, rfl, rfl⟩
      | succ left =>
          cases h' with
          | last hread' =>
              exact sameCourse_last hread hread' hend sched left reader reader' d given w
          | line hread' hrest => exact absurd ⟨_, rfl⟩ hend
  | @line s s₁ s' bytes rest hread hrest ih =>
      cases lines with
      | zero => exact ⟨rfl, rfl, rfl, rfl⟩
      | succ left =>
          obtain ⟨t₁, hread', hrest'⟩ :
              ∃ t₁, LineSource.readLine t = (.line bytes, t₁) ∧ Yields t₁ rest t' := by
            cases h' with
            | last hread' hend => exact absurd ⟨bytes, rfl⟩ hend
            | line hread' hrest' => exact ⟨_, hread', hrest'⟩
          obtain ⟨next, hstep⟩ := step_line sched (readLine_watched hread given w) reader d
          obtain ⟨next', hstep'⟩ := step_line sched (readLine_watched hread' given w) reader' d
          cases hresult : (LineEffect.ofBytes sched bytes d w).result? with
          | some result =>
              rw [hresult] at hstep hstep'
              rw [run_of_ends hstep left, run_of_ends hstep' left]
              exact ⟨rfl, rfl, rfl, rfl⟩
          | none =>
              rw [hresult] at hstep hstep'
              rw [run_of_goes hstep left, run_of_goes hstep' left]
              exact ih hrest' left next next' _ _ _

/-- What a session has read is the front of what its source yields up to an `exit`. -/
theorem given_isPrefix {s s' : σ} {whole : List LineReading} (h : Yields s whole s')
    (sched : Scheduler) (lines : Nat) (reader : CommandReader) (d : Diagnostics) (w : World) :
    ((begin reader d (Watched.mk s []) w).run sched lines).2.script.given <+:
      LineReading.untilExit whole := by
  have hfollows := run_follows_effect sched lines reader d (Watched.mk s []) w
  have hgiven := fun n ↦ (ScriptEffect.leadsTo_of_yields h sched n d [] w).given
  simp only [List.nil_append] at hgiven
  cases hlost : (ScriptEffect.ofScript sched lines d (Watched.mk s []) w).lost with
  | none =>
      obtain ⟨-, hstands⟩ := hfollows.told hlost
      rw [hstands.script, hgiven]
      exact List.take_prefix ..
  | some f =>
      obtain ⟨-, done, -, -, hstands⟩ := hfollows.untold f hlost
      rw [hstands.script, hgiven]
      exact List.take_prefix ..

/-- A session over arriving bytes takes the course that it takes over the whole lines which
they come to, up to an `exit`; with room for all diagnostics it reads all of these.  A read
that fails ends it with that failure, and what comes behind it is left to arrive. -/
theorem runs_whole_lines (sched : Scheduler) (lines : Nat) (reader : CommandReader)
    (arriving : List ByteReading) {capacity : Nat} (hroom : 0 < capacity) (w : World) :
    let script := BufferedLines.ofSource (Arrivals.mk arriving) capacity
    let whole := LineReading.ofArrivals [] (arriving.flatMap ByteReading.arrivals)
    let read := LineReading.untilExit whole
    (∀ d, let ended := (begin reader d (Watched.mk script []) w).run sched lines
      SameCourse ended
          ((begin reader d (Watched.mk (Readings.ofList whole) []) w).run sched lines) ∧
        ended.2.script.given <+: read) ∧
      ∀ b, let ended := (begin reader (.kept b none) (Watched.mk script []) w).run sched lines
        ended.2.script.given = read.take lines ∧
          ended.1 = (if read.length ≤ lines then some (LineReading.ending read) else none) ∧
          ∀ cause, ended.1 = some (.error cause) → ∃ message behind,
            arriving.dropWhile (!·.isFailure) = .failure message :: behind ∧
              cause = (Failure.ofText message).within "unable to read input line" ∧
              ended.2.script.script = .ofSource ⟨behind⟩ capacity := by
  intro script whole read
  obtain ⟨s', hyields, hends⟩ := script.exists_yields hroom
  have hwhole : LineReading.ofArrivals [] script.signs = whole := rfl
  rw [hwhole] at hyields hends
  refine ⟨fun d ↦ ⟨?_, ?_⟩, fun b ↦ ?_⟩
  · exact sameCourse_of_yields hyields (hyields.readings 0) sched lines reader reader d [] w
  · exact given_isPrefix hyields sched lines reader d w
  · have hleads := ScriptEffect.leadsTo_of_yields hyields sched lines (.kept b none) [] w
    have hfollows := run_follows_effect sched lines reader (.kept b none) (Watched.mk script []) w
    obtain ⟨hresult, hstands⟩ := hfollows.told (by rw [ScriptEffect.ofScript_kept])
    dsimp only
    rw [hresult, hstands.script]
    refine ⟨hleads.given, hleads.result, fun cause hcause ↦ ?_⟩
    obtain ⟨hsource, hlast⟩ := hleads.source cause hcause
    obtain ⟨message, behind, hmessage, hfailure, hleft⟩ := hends cause hlast
    exact ⟨message, behind, hmessage, hfailure, hsource.trans hleft⟩

/-- A read fails behind the first letter of a line, of which the other letters arrive later:
they are neither joined to it nor taken for a line. -/
theorem runs_whole_lines_torn :
    let arriving : List ByteReading := [.data (encode "ls\r\nr"), .interrupted,
      .failure "Input/output error (os error 5)", .data (encode "m x\n")]
    let script := BufferedLines.ofSource (Arrivals.mk arriving) 2
    let w : World := ⟨⟨⟨#[]⟩, #[], #[], #[], 0⟩, ⟨[]⟩, 0, [], #[], [], .none⟩
    let sched : Scheduler := ⟨fun w _ ↦ (.exited 0, w.machine)⟩
    let cause := (Failure.ofText "Input/output error (os error 5)").within
      "unable to read input line"
    let ended := (begin .new .unlimited (Watched.mk script []) w).run sched 5
    0 < 2 ∧ ended.2.script.given = [.line (encode "ls"), .failure cause] ∧
      ended.1 = some (.error cause) ∧
      ended.2.script.script = .ofSource ⟨[.data (encode "m x\n")]⟩ 2 := by
  intro arriving script w sched cause ended
  have htokens : Token.ofBytes (encode "ls") = .ok [.word "ls"] := by cbv
  have hwhole : LineReading.ofArrivals [] (arriving.flatMap ByteReading.arrivals) =
      [.line (encode "ls"), .failure cause] := by decide +kernel
  have hread : LineReading.untilExit (LineReading.ofArrivals []
      (arriving.flatMap ByteReading.arrivals)) = [.line (encode "ls"), .failure cause] := by
    rw [hwhole, LineReading.untilExit, htokens]
    rfl
  obtain ⟨-, hkept⟩ := runs_whole_lines sched 5 .new arriving (by decide : 0 < 2) w
  obtain ⟨hgiven, hresult, hleft⟩ := hkept []
  rw [hread] at hgiven hresult
  obtain ⟨message, behind, hbehind, -, hsource⟩ := hleft cause hresult
  obtain ⟨-, rfl⟩ := List.cons.inj hbehind
  exact ⟨by decide, hgiven, hresult, hsource⟩

end Session

end PipeShell

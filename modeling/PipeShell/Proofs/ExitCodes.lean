import Mathlib
import PipeShell.CommandLine
import PipeShell.Proofs.BytesLeft
import PipeShell.Proofs.LineEffects

/-!
# What the exit code tells

The code with which the program exits says whether its input could be read, and nothing else:
it is 1 if the script cannot be opened or a reading fails before a line says `exit`, and
otherwise 0.  Lines that give no tokens, commands that are turned down, and whatever becomes of
the stages of a pipeline have no say in it, as long as it can be told on standard error.
-/

namespace PipeShell

universe u

/-- Standard error takes whatever is written to it. -/
def World.Tells (w : World) : Prop :=
  ∀ bytes, (w.write 2 bytes).1 ≠ .broken ∧ ∀ e, (w.write 2 bytes).1 ≠ .failed e

namespace Diagnostics

variable {w : World}

theorem write_of_tells (h : w.Tells) (text : String) :
    (write .standardError w text).1 = .ok () := by
  obtain ⟨hbroken, hfailed⟩ := h (encode text)
  have hreply : (write .standardError w text).1 = outcome (w.write 2 (encode text)).1 := rfl
  rw [hreply]
  cases hwrite : (w.write 2 (encode text)).1 with
  | wrote count => rfl
  | blocked => rfl
  | broken => exact absurd hwrite hbroken
  | failed e => exact absurd hwrite (hfailed e)

end Diagnostics

namespace Pipeline

theorem collect_standardError (sched : Scheduler) (index : ℕ) (outcome : ExecOutcome) (w : World)
    (stages : List (Stage × Pid)) :
    (collect sched index outcome .standardError w stages).2.1 = .standardError := by
  induction stages generalizing index outcome w with
  | nil => rfl
  | cons stage rest ih =>
      obtain ⟨stage, pid⟩ := stage
      rw [collect]
      dsimp only
      split
      next => exact ih ..
      next => exact ih ..

/-- What a pipeline has to tell goes where it went before. -/
theorem execute_standardError (sched : Scheduler) (p : Pipeline) (w : World) :
    (p.execute sched .standardError w).2.1 = .standardError := by
  rw [execute]
  split
  next => exact collect_standardError ..
  next => rfl

end Pipeline

namespace LineEffect

variable {sched : Scheduler} {bytes : Bytes} {w : World}

theorem diagnostics_telling (text : String) (w : World) :
    (telling text .standardError w).diagnostics = .standardError := by
  unfold telling
  split
  next hwrite => exact (congrArg (·.2.1) hwrite).symm
  next hwrite => exact (congrArg (·.2.1) hwrite).symm

theorem lost_telling (h : w.Tells) (text : String) :
    (telling text .standardError w).lost = none := by
  have hwrite := Diagnostics.write_of_tells h text
  rw [telling]
  split <;> simp_all

theorem diagnostics_ofCommand (c : Command) :
    (ofCommand sched c .standardError w).diagnostics = .standardError := by
  unfold ofCommand
  split
  next => rfl
  next => rfl
  next => exact diagnostics_telling ..
  next p w' _ => exact p.execute_standardError sched w'

theorem diagnostics_ofBytes :
    (ofBytes sched bytes .standardError w).diagnostics = .standardError := by
  unfold ofBytes
  split
  next => exact diagnostics_telling ..
  next => exact diagnostics_ofCommand _

/-- A `cd` that fails leaves the world as it was, so it can be told of. -/
theorem lost_ofCommand (h : w.Tells) (c : Command) :
    (ofCommand sched c .standardError w).lost = none := by
  cases c with
  | changeDirectory directory =>
      simp only [ofCommand, Command.settle]
      cases w.changeDirectory directory with
      | ok w' => rfl
      | error cause => exact lost_telling h _
  | refused e => exact lost_telling h _
  | nothing | leave | run => rfl

theorem goesOn_of_ne_exit {d : Diagnostics} (h : Token.ofBytes bytes ≠ .ok [.word "exit"]) :
    (ofBytes sched bytes d w).goesOn = true :=
  eq_true_of_ne_false (mt goesOn_ofBytes_eq_false_iff.1 h)

theorem lost_ofBytes (h : w.Tells) : (ofBytes sched bytes .standardError w).lost = none := by
  unfold ofBytes
  split
  next => exact lost_telling h _
  next => exact lost_ofCommand h _

end LineEffect

/-! ## The course of the lines of a script -/

section Course

variable {σ : Type u} [ScriptSource σ] (sched : Scheduler)

/-- A line has been read and carried out, and another one is to be read. -/
inductive NextLine : σ × World → σ × World → Prop where
  | line {script script' : σ} {w w' : World} {bytes : Bytes}
      (hread : ScriptSource.readLine script w = (.line bytes, script', w'))
      (hgoes : Token.ofBytes bytes ≠ .ok [.word "exit"]) :
      NextLine (script, w) (script', (LineEffect.ofBytes sched bytes .standardError w').world)

/-- How the lines of a script end. -/
inductive LinesEnd where
  | endOfInput
  | exit
  | failure (cause : Failure)

/-- How a session ends with its lines. -/
def LinesEnd.result : LinesEnd → Except Failure Unit
  | .failure cause => .error cause
  | _ => .ok ()

/-- What is read next is the end. -/
inductive LastReading : σ × World → LinesEnd → Prop where
  | endOfInput {script script' : σ} {w w' : World}
      (hread : ScriptSource.readLine script w = (.endOfInput, script', w')) :
      LastReading (script, w) .endOfInput
  | exit {script script' : σ} {w w' : World} {bytes : Bytes}
      (hread : ScriptSource.readLine script w = (.line bytes, script', w'))
      (hexit : Token.ofBytes bytes = .ok [.word "exit"]) : LastReading (script, w) .exit
  | failure {script script' : σ} {w w' : World} {cause : Failure}
      (hread : ScriptSource.readLine script w = (.failure cause, script', w')) :
      LastReading (script, w) (.failure cause)

/-- Line by line, it comes to this from here. -/
def CourseFrom : σ × World → σ × World → Prop :=
  Relation.ReflTransGen (NextLine sched)

/-- The lines end so, each being read where the ones before it have led to. -/
def ComesTo (start : σ × World) (ending : LinesEnd) : Prop :=
  ∃ last, CourseFrom sched start last ∧ LastReading last ending

/-- Whenever a line has been read, standard error takes what is written to it. -/
def TellsThroughout (start : σ × World) : Prop :=
  ∀ s, CourseFrom sched start s → (ScriptSource.readLine s.1 s.2).2.2.Tells

variable {sched} {s t : σ × World}

/-- What is read next decides where it leads to. -/
theorem CourseFrom.eq_or_of_nextLine {s' : σ × World} (h : CourseFrom sched s t)
    (hnext : NextLine sched s s') : t = s ∨ CourseFrom sched s' t := by
  rcases h.cases_head with rfl | ⟨s'', hnext', hrest⟩
  · exact .inl rfl
  · cases hnext with
    | line hread hgoes =>
        cases hnext' with
        | line hread' hgoes' =>
            obtain ⟨hbytes, hscript⟩ := Prod.mk.inj (hread.symm.trans hread')
            obtain rfl := LineReading.line.inj hbytes
            obtain ⟨rfl, rfl⟩ := Prod.mk.inj hscript
            exact .inr hrest

/-- Nothing is read behind the last reading. -/
theorem CourseFrom.eq_of_lastReading {ending : LinesEnd} (h : CourseFrom sched s t)
    (hlast : LastReading s ending) : t = s := by
  rcases h.cases_head with rfl | ⟨s', hnext, -⟩
  · rfl
  · cases hnext with
    | line hread hgoes =>
        cases hlast with
        | endOfInput hread' => cases hread.symm.trans hread'
        | failure hread' => cases hread.symm.trans hread'
        | exit hread' hexit =>
            obtain ⟨hbytes, -⟩ := Prod.mk.inj (hread.symm.trans hread')
            obtain rfl := LineReading.line.inj hbytes
            exact (hgoes hexit).elim

end Course

namespace ScriptEffect

variable {σ : Type u} [ScriptSource σ] {sched : Scheduler}

theorem ofScript_nextLine {s s' : σ × World} (h : NextLine sched s s') (left : ℕ) :
    (ofScript sched (left + 1) .standardError s.1 s.2).result =
      (ofScript sched left .standardError s'.1 s'.2).result := by
  cases h with
  | line hread hgoes =>
      rw [ofScript_line left hread (LineEffect.goesOn_of_ne_exit hgoes),
        LineEffect.diagnostics_ofBytes]

theorem ofScript_lastReading {s : σ × World} {ending : LinesEnd} (h : LastReading s ending)
    (left : ℕ) :
    (ofScript sched (left + 1) .standardError s.1 s.2).result = some ending.result := by
  cases h with
  | endOfInput hread => rw [ofScript_endOfInput sched left _ hread]; rfl
  | exit hread hexit =>
      rw [ofScript_exit left hread (LineEffect.goesOn_ofBytes_eq_false_iff.2 hexit)]
      rfl
  | failure hread => rw [ofScript_failure sched left _ hread]; rfl

theorem exists_ofScript {start : σ × World} {ending : LinesEnd}
    (h : ComesTo sched start ending) :
    ∃ n, ∀ lines, n < lines →
      (ofScript sched lines .standardError start.1 start.2).result = some ending.result := by
  obtain ⟨last, hcourse, hlast⟩ := h
  induction hcourse using Relation.ReflTransGen.head_induction_on with
  | refl =>
      refine ⟨0, fun lines hlines ↦ ?_⟩
      obtain ⟨left, rfl⟩ := Nat.exists_eq_succ_of_ne_zero hlines.ne'
      exact ofScript_lastReading hlast left
  | head hnext _ ih =>
      obtain ⟨n, hn⟩ := ih
      refine ⟨n + 1, fun lines hlines ↦ ?_⟩
      obtain ⟨left, rfl⟩ := Nat.exists_eq_succ_of_ne_zero (Nat.ne_zero_of_lt hlines)
      rw [Nat.succ_eq_add_one, ofScript_nextLine hnext]
      exact hn left (by omega)

/-- A script has only come to its end if its lines end. -/
theorem exists_comesTo_of_result {lines : ℕ} {script : σ} {w : World}
    {result : Except Failure Unit}
    (h : (ofScript sched lines .standardError script w).result = some result) :
    ∃ ending, ComesTo sched (script, w) ending ∧ ending.result = result := by
  induction lines generalizing script w with
  | zero => cases h
  | succ left ih =>
      rcases hread : ScriptSource.readLine script w with ⟨reading, script', w'⟩
      cases reading with
      | endOfInput =>
          rw [ofScript_endOfInput sched left _ hread] at h
          exact ⟨.endOfInput, ⟨_, .refl, .endOfInput hread⟩, Option.some.inj h⟩
      | failure cause =>
          rw [ofScript_failure sched left _ hread] at h
          exact ⟨.failure cause, ⟨_, .refl, .failure hread⟩, Option.some.inj h⟩
      | line bytes =>
          by_cases hexit : Token.ofBytes bytes = .ok [.word "exit"]
          · rw [ofScript_exit left hread (LineEffect.goesOn_ofBytes_eq_false_iff.2 hexit)] at h
            exact ⟨.exit, ⟨_, .refl, .exit hread hexit⟩, Option.some.inj h⟩
          · have hnext : NextLine sched (script, w) _ := .line hread hexit
            have hresult := ofScript_nextLine hnext left
            obtain ⟨ending, ⟨last, hcourse, hlast⟩, hending⟩ := ih (hresult.symm.trans h)
            exact ⟨ending, ⟨last, .head hnext hcourse, hlast⟩, hending⟩

/-- As long as standard error takes what is written, nothing that is told is lost. -/
theorem lost_ofScript {script : σ} {w : World} (h : TellsThroughout sched (script, w))
    (lines : ℕ) : (ofScript sched lines .standardError script w).lost = none := by
  induction lines generalizing script w with
  | zero => rfl
  | succ left ih =>
      rcases hread : ScriptSource.readLine script w with ⟨reading, script', w'⟩
      cases reading with
      | endOfInput => rw [ofScript_endOfInput sched left _ hread]
      | failure cause => rw [ofScript_failure sched left _ hread]
      | line bytes =>
          by_cases hexit : Token.ofBytes bytes = .ok [.word "exit"]
          · rw [ofScript_exit left hread (LineEffect.goesOn_ofBytes_eq_false_iff.2 hexit)]
          · have htells : w'.Tells := by
              have hfirst := h _ .refl
              rwa [hread] at hfirst
            have hrest := ih fun s hs ↦ h s (.head (.line hread hexit) hs)
            rw [ofScript_line left hread (LineEffect.goesOn_of_ne_exit hexit),
              LineEffect.diagnostics_ofBytes, hrest,
              LineEffect.lost_ofBytes htells]
            rfl

end ScriptEffect

/-! ## Scripts that come to an end -/

/-- No line adds to what is left to read of its own script. -/
def KeepsScript (sched : Scheduler) (start : DescriptorLines × World) : Prop :=
  ∀ s, CourseFrom sched start s → ∀ bytes script w,
    ScriptSource.readLine s.1 s.2 = (.line bytes, script, w) →
      script.left (LineEffect.ofBytes sched bytes .standardError w).world ≤ script.left w

theorem KeepsScript.behind {sched : Scheduler} {start s : DescriptorLines × World}
    (h : KeepsScript sched start) (hnext : NextLine sched start s) : KeepsScript sched s :=
  fun s' hs' ↦ h s' (.head hnext hs')

/-- Every line takes something of what is left, so the lines of such a script end. -/
theorem KeepsScript.exists_comesTo {sched : Scheduler} {start : DescriptorLines × World}
    (h : KeepsScript sched start) : ∃ ending, ComesTo sched start ending := by
  -- By induction on what is left: a line takes some of it, and what is done for it adds none.
  induction hleft : start.1.left start.2 using Nat.strong_induction_on generalizing start with
  | _ n ih =>
      obtain ⟨script, w⟩ := start
      rcases hread : ScriptSource.readLine script w with ⟨reading, script', w'⟩
      cases reading with
      | endOfInput => exact ⟨.endOfInput, _, .refl, .endOfInput hread⟩
      | failure cause => exact ⟨.failure cause, _, .refl, .failure hread⟩
      | line bytes =>
          by_cases hexit : Token.ofBytes bytes = .ok [.word "exit"]
          · exact ⟨.exit, _, .refl, .exit hread hexit⟩
          · have hnext : NextLine sched (script, w) _ := .line hread hexit
            have hkept := h _ .refl bytes script' w' hread
            have hless := DescriptorLines.left_of_readLine hread
            obtain ⟨ending, last, hcourse, hlast⟩ :=
              ih _ (hkept.trans_lt (hless.trans_eq hleft)) (h.behind hnext) rfl
            exact ⟨ending, last, .head hnext hcourse, hlast⟩

/-! ## The code of a run -/

namespace CommandLine

/-- Where the lines of a run come from: the script, or else standard input. -/
def source? (o : Options) (w : World) : Except FileError (DescriptorLines × World) :=
  match o.script with
  | none => .ok (.ofDescriptor 0, tellFilter o w)
  | some path => ((tellFilter o w).openFile path .read).map fun opened ↦
      (.ofDescriptor opened.1, opened.2)

/-- The script cannot be opened, or reading a line of it fails. -/
inductive CannotRead (sched : Scheduler) (o : Options) (w : World) : Prop where
  | unopened {cause : FileError} (hsource : source? o w = .error cause)
  | unread {start : DescriptorLines × World} {cause : Failure}
      (hsource : source? o w = .ok start) (hends : ComesTo sched start (.failure cause))

/-- The code for how a session has ended. -/
def codeOf : Except Failure Unit → ℕ
  | .ok () => 0
  | .error _ => 1

theorem runLines_fst (sched : Scheduler) (lines : ℕ) (fd : Descriptor) (w : World) :
    (runLines sched lines fd w).1 =
      ((Session.begin .new .standardError (DescriptorLines.ofDescriptor fd) w).run sched
        lines).1.map codeOf := by
  rw [runLines]
  generalize (Session.begin .new .standardError (DescriptorLines.ofDescriptor fd) w).run sched
    lines = ended
  match ended with
  | (some (.ok ()), s) => rfl
  | (some (.error f), s) => rfl
  | (none, s) => rfl

variable {sched : Scheduler} {arguments : List String} {o : Options} {w : World}
  {start : DescriptorLines × World}

theorem run_of_unopened (hrun : invocation arguments = .run o) {cause : FileError}
    (hsource : source? o w = .error cause) (lines : ℕ) :
    (run sched lines arguments w).1 = some 1 := by
  rw [run, hrun]
  rw [source?] at hsource
  dsimp only
  cases hscript : o.script with
  | none =>
      rw [hscript] at hsource
      cases hsource
  | some path =>
      rw [hscript] at hsource
      dsimp only at hsource ⊢
      cases hopen : (tellFilter o w).openFile path .read with
      | ok opened =>
          rw [hopen] at hsource
          cases hsource
      | error cause => rfl

theorem run_of_source (hrun : invocation arguments = .run o)
    (hsource : source? o w = .ok start) (lines : ℕ) :
    (run sched lines arguments w).1 =
      ((Session.begin .new .standardError start.1 start.2).run sched lines).1.map codeOf := by
  rw [run, hrun]
  rw [source?] at hsource
  dsimp only
  cases hscript : o.script with
  | none =>
      rw [hscript] at hsource
      obtain rfl := Except.ok.inj hsource
      exact runLines_fst ..
  | some path =>
      rw [hscript] at hsource
      dsimp only at hsource ⊢
      cases hopen : (tellFilter o w).openFile path .read with
      | ok opened =>
          rw [hopen] at hsource
          obtain rfl := Except.ok.inj hsource
          exact runLines_fst ..
      | error cause =>
          rw [hopen] at hsource
          cases hsource

/-- A run that can tell of all its lines has the code that its script comes to. -/
theorem run_of_tells (hrun : invocation arguments = .run o) (hsource : source? o w = .ok start)
    (htells : TellsThroughout sched start) (lines : ℕ) :
    (run sched lines arguments w).1 =
      (ScriptEffect.ofScript sched lines .standardError start.1 start.2).result.map codeOf := by
  have hfollows := Session.run_follows_effect sched lines .new .standardError start.1 start.2
  obtain ⟨hresult, -⟩ := hfollows.told (ScriptEffect.lost_ofScript htells lines)
  rw [run_of_source hrun hsource, hresult]

theorem codeOf_result (ending : LinesEnd) :
    codeOf ending.result = 1 ∧ (∃ cause, ending = .failure cause) ∨
      codeOf ending.result = 0 := by
  cases ending with
  | failure cause => exact .inl ⟨rfl, cause, rfl⟩
  | endOfInput | exit => exact .inr rfl

/-- The lines of a script cannot end in two ways. -/
theorem result_eq_of_comesTo {ending ending' : LinesEnd} (h : ComesTo sched start ending)
    (h' : ComesTo sched start ending') : ending.result = ending'.result := by
  obtain ⟨n, hn⟩ := ScriptEffect.exists_ofScript h
  obtain ⟨n', hn'⟩ := ScriptEffect.exists_ofScript h'
  have hresult := hn (max n n' + 1) (by omega)
  rw [hn' (max n n' + 1) (by omega)] at hresult
  exact (Option.some.inj hresult).symm

theorem code_cases_of_comesTo (hsource : source? o w = .ok start) {ending : LinesEnd}
    (h : ComesTo sched start ending) :
    codeOf ending.result = 1 ∧ CannotRead sched o w ∨
      codeOf ending.result = 0 ∧ ¬ CannotRead sched o w := by
  rcases codeOf_result ending with ⟨hone, cause, rfl⟩ | hzero
  · exact .inl ⟨hone, .unread hsource h⟩
  · refine .inr ⟨hzero, ?_⟩
    rintro (hnone | ⟨hsome, hfails⟩)
    · rw [hsource] at hnone
      cases hnone
    · obtain rfl := Except.ok.inj (hsource.symm.trans hsome)
      rw [result_eq_of_comesTo h hfails] at hzero
      cases hzero

/-- Whatever code a run exits with, it says whether the input could be read. -/
theorem code_cases (hrun : invocation arguments = .run o)
    (htells : ∀ start, source? o w = .ok start → TellsThroughout sched start) {lines code : ℕ}
    (hcode : (run sched lines arguments w).1 = some code) :
    code = 1 ∧ CannotRead sched o w ∨ code = 0 ∧ ¬ CannotRead sched o w := by
  cases hsource : source? o w with
  | error cause =>
      rw [run_of_unopened hrun hsource] at hcode
      exact .inl ⟨(Option.some.inj hcode).symm, .unopened hsource⟩
  | ok start =>
      rw [run_of_tells hrun hsource (htells start hsource)] at hcode
      obtain ⟨result, hresult, rfl⟩ := Option.map_eq_some_iff.1 hcode
      obtain ⟨ending, hends, rfl⟩ := ScriptEffect.exists_comesTo_of_result hresult
      exact code_cases_of_comesTo hsource hends

/-- A run exits if no line adds to what is left of its script. -/
theorem exists_code (hrun : invocation arguments = .run o)
    (htells : ∀ start, source? o w = .ok start → TellsThroughout sched start)
    (hkeeps : ∀ start, source? o w = .ok start → KeepsScript sched start) :
    ∃ n, ∀ lines, n < lines → ∃ code, (run sched lines arguments w).1 = some code := by
  cases hsource : source? o w with
  | error cause => exact ⟨0, fun lines _ ↦ ⟨1, run_of_unopened hrun hsource lines⟩⟩
  | ok start =>
      obtain ⟨ending, hends⟩ := (hkeeps start hsource).exists_comesTo
      obtain ⟨n, hn⟩ := ScriptEffect.exists_ofScript hends
      refine ⟨n, fun lines hlines ↦ ⟨codeOf ending.result, ?_⟩⟩
      rw [run_of_tells hrun hsource (htells start hsource), hn lines hlines, Option.map_some]

/-! ## A script with one line, and a directory in place of a script -/

/-- A directory with a file `s`, in whose line a stage is missing, and a directory `d`. -/
def shelf : World :=
  ⟨⟨⟨#[.directory [("s", 1), ("d", 2)] 0 0o777, .file (encode "|") 0o644,
      .directory [] 0 0o777, .device .null]⟩, #[.node 3 .write 0 false], #[], #[], 0⟩,
    ⟨[(2, ⟨0, false⟩)]⟩, Tree.root, [], #[], [], .none⟩

/-- The shelf when one of its files has been opened and read up to a place. -/
def shelfAt (id : NodeId) (place : ℕ) : World :=
  { shelf with
    machine := { shelf.machine with
      opened := #[.node 3 .write 0 false, .node id .read place false] }
    table := ⟨[(0, ⟨1, true⟩), (2, ⟨0, false⟩)]⟩
    events := #[.opened 0] }

/-- The options of a run whose script has a name. -/
def optionsOf (script : String) : Options :=
  ⟨some script, none, false, none⟩

theorem write_shelfAt (id : NodeId) (place : ℕ) (bytes : Bytes) :
    (shelfAt id place).write 2 bytes = (.wrote bytes.length, shelfAt id place) :=
  rfl

theorem tells_shelfAt (id : NodeId) (place : ℕ) : (shelfAt id place).Tells := by
  intro bytes
  rw [write_shelfAt]
  exact ⟨nofun, nofun⟩

theorem source?_optionsOf {script : String} {fd : Descriptor} {w : World}
    (hopen : shelf.openFile script .read = .ok (fd, w)) :
    source? (optionsOf script) shelf = .ok (.ofDescriptor fd, w) := by
  have hfilter : tellFilter (optionsOf script) shelf = shelf := rfl
  rw [source?, hfilter]
  simp only [optionsOf, hopen]
  rfl

theorem source?_shelf_line :
    source? (optionsOf "s") shelf = .ok (.ofDescriptor 0, shelfAt 1 0) := by
  refine source?_optionsOf ?_
  simp only [shelfAt, shelf]
  cbv

theorem source?_shelf_directory :
    source? (optionsOf "d") shelf = .ok (.ofDescriptor 0, shelfAt 2 0) := by
  refine source?_optionsOf ?_
  simp only [shelfAt, shelf]
  cbv

theorem readLine_shelf_line :
    ScriptSource.readLine (DescriptorLines.ofDescriptor 0) (shelfAt 1 0) =
      (.line (encode "|"), ⟨0, [], 8192⟩, shelfAt 1 1) := by
  simp only [shelfAt, shelf]
  cbv

theorem readLine_shelf_endOfInput :
    ScriptSource.readLine (⟨0, [], 8192⟩ : DescriptorLines) (shelfAt 1 1) =
      (.endOfInput, ⟨0, [], 8192⟩, shelfAt 1 1) := by
  simp only [shelfAt, shelf]
  cbv

theorem readLine_shelf_directory :
    ScriptSource.readLine (DescriptorLines.ofDescriptor 0) (shelfAt 2 0) =
      (.failure ⟨"unable to read input line", ["Is a directory (os error 21)"]⟩,
        ⟨0, [], 8192⟩, shelfAt 2 0) := by
  simp only [shelfAt, shelf]
  cbv

/-- The line of the script is told of, and changes nothing. -/
theorem world_ofBytes_shelf (sched : Scheduler) :
    (LineEffect.ofBytes sched (encode "|") .standardError (shelfAt 1 1)).world = shelfAt 1 1 := by
  have hpipe : Token.ofBytes (encode "|") = .ok [.pipe] := by cbv
  have hrefused : (CommandReader.new.read (Symbol.ofLine [.pipe])).1 =
      .refused .noInitialProgram := by cbv
  simp only [LineEffect.ofBytes, hpipe, LineEffect.ofCommand, hrefused, Command.settle,
    LineEffect.telling, Diagnostics.write, write_shelfAt]
  rfl

theorem nextLine_shelf (sched : Scheduler) :
    NextLine sched (DescriptorLines.ofDescriptor 0, shelfAt 1 0)
      (⟨0, [], 8192⟩, shelfAt 1 1) := by
  have hpipe : Token.ofBytes (encode "|") = .ok [.pipe] := by cbv
  have hgoes : Token.ofBytes (encode "|") ≠ .ok [.word "exit"] := by
    rw [hpipe]
    simp
  have hnext : NextLine sched _ _ := .line readLine_shelf_line hgoes
  rwa [world_ofBytes_shelf] at hnext

theorem lastReading_shelf :
    LastReading ((⟨0, [], 8192⟩ : DescriptorLines), shelfAt 1 1) .endOfInput :=
  .endOfInput readLine_shelf_endOfInput

theorem tells_keeps_shelf_line (sched : Scheduler) :
    TellsThroughout sched (DescriptorLines.ofDescriptor 0, shelfAt 1 0) ∧
      KeepsScript sched (DescriptorLines.ofDescriptor 0, shelfAt 1 0) := by
  have hcourse (s : DescriptorLines × World)
      (hs : CourseFrom sched (.ofDescriptor 0, shelfAt 1 0) s) :
      s = (.ofDescriptor 0, shelfAt 1 0) ∨ s = (⟨0, [], 8192⟩, shelfAt 1 1) :=
    (hs.eq_or_of_nextLine (nextLine_shelf sched)).imp_right
      fun hrest ↦ hrest.eq_of_lastReading lastReading_shelf
  constructor
  · intro s hs
    rcases hcourse s hs with rfl | rfl
    · exact readLine_shelf_line ▸ tells_shelfAt 1 1
    · exact readLine_shelf_endOfInput ▸ tells_shelfAt 1 1
  · intro s hs bytes script w hread
    rcases hcourse s hs with rfl | rfl
    · obtain ⟨hbytes, hrest⟩ := Prod.mk.inj (readLine_shelf_line.symm.trans hread)
      obtain rfl := LineReading.line.inj hbytes
      obtain ⟨rfl, rfl⟩ := Prod.mk.inj hrest
      rw [world_ofBytes_shelf]
    · cases readLine_shelf_endOfInput.symm.trans hread

theorem tells_keeps_shelf_directory (sched : Scheduler) :
    TellsThroughout sched (DescriptorLines.ofDescriptor 0, shelfAt 2 0) ∧
      KeepsScript sched (DescriptorLines.ofDescriptor 0, shelfAt 2 0) := by
  have hlast := LastReading.failure readLine_shelf_directory
  constructor
  · intro s hs
    obtain rfl := CourseFrom.eq_of_lastReading hs hlast
    exact readLine_shelf_directory ▸ tells_shelfAt 2 0
  · intro s hs bytes script w hread
    obtain rfl := CourseFrom.eq_of_lastReading hs hlast
    cases readLine_shelf_directory.symm.trans hread

/-! ## The code and the reading -/

/-- If standard error takes what is told, a run exits with 1 only if its script cannot be opened
or a reading fails before a line says `exit`, and otherwise only with 0, whatever becomes of its
lines; and it does exit if no line adds to what is left of the script. -/
theorem exit_code_iff_unreadable (hrun : invocation arguments = .run o)
    (htells : ∀ start, source? o w = .ok start → TellsThroughout sched start) :
    (∀ lines code, (run sched lines arguments w).1 = some code →
      code = 1 ∧ CannotRead sched o w ∨ code = 0 ∧ ¬ CannotRead sched o w) ∧
    ((∀ start, source? o w = .ok start → KeepsScript sched start) →
      ∃ n, ∀ lines, n < lines →
        ((run sched lines arguments w).1 = some 1 ↔ CannotRead sched o w) ∧
        ((run sched lines arguments w).1 = some 0 ↔ ¬ CannotRead sched o w)) := by
  refine ⟨fun lines code hcode ↦ code_cases hrun htells hcode, fun hkeeps ↦ ?_⟩
  obtain ⟨n, hn⟩ := exists_code hrun htells hkeeps
  refine ⟨n, fun lines hlines ↦ ?_⟩
  obtain ⟨code, hcode⟩ := hn lines hlines
  rw [hcode]
  rcases code_cases hrun htells hcode with ⟨rfl, hcannot⟩ | ⟨rfl, hcan⟩
  · simp [hcannot]
  · simp [hcan]

/-- The line of the script is turned down, and the program exits with 0; the directory can be
opened and not read, and the program exits with 1. -/
theorem exit_code_iff_unreadable_directory :
    let sched : Scheduler := ⟨fun w _ ↦ (.exited 0, w.machine)⟩
    (∀ script ∈ ["s", "d"], invocation [script] = .run (optionsOf script) ∧
      ∀ start, source? (optionsOf script) shelf = .ok start →
        TellsThroughout sched start ∧ KeepsScript sched start) ∧
      ∃ n, ∀ lines, n < lines → (run sched lines ["s"] shelf).1 = some 0 ∧
        (run sched lines ["d"] shelf).1 = some 1 := by
  intro sched
  have hfile : invocation ["s"] = .run (optionsOf "s") := by cbv
  have hdirectory : invocation ["d"] = .run (optionsOf "d") := by cbv
  have hline (start) (hstart : source? (optionsOf "s") shelf = .ok start) :
      TellsThroughout sched start ∧ KeepsScript sched start := by
    obtain rfl := Except.ok.inj (source?_shelf_line.symm.trans hstart)
    exact tells_keeps_shelf_line sched
  have hfails (start) (hstart : source? (optionsOf "d") shelf = .ok start) :
      TellsThroughout sched start ∧ KeepsScript sched start := by
    obtain rfl := Except.ok.inj (source?_shelf_directory.symm.trans hstart)
    exact tells_keeps_shelf_directory sched
  obtain ⟨-, hexits⟩ := exit_code_iff_unreadable hfile fun start h ↦ (hline start h).1
  obtain ⟨-, hexits'⟩ := exit_code_iff_unreadable hdirectory fun start h ↦ (hfails start h).1
  obtain ⟨n, hn⟩ := hexits fun start h ↦ (hline start h).2
  obtain ⟨n', hn'⟩ := hexits' fun start h ↦ (hfails start h).2
  have hcan : ¬ CannotRead sched (optionsOf "s") shelf := by
    rcases code_cases_of_comesTo source?_shelf_line
      ⟨_, .single (nextLine_shelf sched), lastReading_shelf⟩ with ⟨hone, -⟩ | ⟨-, hcan⟩
    · cases hone
    · exact hcan
  have hcannot : CannotRead sched (optionsOf "d") shelf :=
    .unread source?_shelf_directory ⟨_, .refl, .failure readLine_shelf_directory⟩
  refine ⟨?_, max n n', fun lines hlines ↦
    ⟨(hn lines (by omega)).2.2 hcan, (hn' lines (by omega)).1.2 hcannot⟩⟩
  rintro script hscript
  obtain rfl | rfl : script = "s" ∨ script = "d" := by simpa using hscript
  · exact ⟨hfile, hline⟩
  · exact ⟨hdirectory, hfails⟩

end CommandLine

end PipeShell

import Mathlib
import PipeShell.Proofs.Awaiting
import PipeShell.Proofs.StageProcesses
import PipeShell.System.Scheduler

/-!
# Failures before the first stage

A byte 0 in an argument, or an input file that cannot be opened, is found before
anything has been asked of the system.  The run then changes nothing: it starts and
awaits no process and leaves the tree of files alone, the output file included.  All
that happens is that one diagnostic is written, and of the two failures the byte 0 is
the one that is told.
-/

namespace PipeShell

/-- Writing a diagnostic opens, starts and ends nothing. -/
theorem Diagnostics.sameFiles_write (d : Diagnostics) (w : World) (text : String) :
    w.machine.SameFiles (d.write w text).2.2.machine := by
  unfold write
  cases d with
  | kept bytes room => cases room <;> exact .refl _
  | standardError => exact w.machine.sameFiles_write w.table w.table 2 (encode text)

/-- What is kept in memory is written without touching the world. -/
theorem Diagnostics.world_write_kept (bytes : Bytes) (room : Option Nat) (w : World)
    (text : String) : ((Diagnostics.kept bytes room).write w text).2.2 = w := by
  cases room <;> rfl

namespace ExecError

/-- What is told of a redirection. -/
theorem line_openFile (path : String) (purpose : Purpose) (cause : FileError) :
    s!"exec error: {(openFile path purpose cause).message}\n" =
      "exec error: unable to open '" ++ path ++ ("' for " ++ purpose.text ++ ": ") ++
        cause.message ++ "\n" := by
  have hfront : "exec error: unable to open '" = "exec error: " ++ "unable to open '" := by decide
  calc
    _ = "exec error: " ++ ("unable to open '" ++ path ++ "' for " ++ purpose.text ++ ": " ++
          cause.message) ++ "\n" := rfl
    _ = "exec error: unable to open '" ++ path ++ ("' for " ++ purpose.text ++ ": ") ++
          cause.message ++ "\n" := by
      simp only [hfront, String.append_assoc]

/-- What is told of a byte 0. -/
theorem line_nulInArgument (position : Nat) :
    s!"exec error: {(nulInArgument position).message}\n" =
      "exec error: argument contains a nul byte: " ++
        "nul byte found in provided data at position: " ++ s!"{position}\n" := by
  have hfront : "exec error: argument contains a nul byte: " ++
      "nul byte found in provided data at position: " = "exec error: " ++
        ("argument contains a nul byte: " ++ "nul byte found in provided data at position: ") := by
    decide
  calc
    _ = "exec error: " ++ ("argument contains a nul byte: " ++
          ("nul byte found in provided data at position: " ++ toString position)) ++ "\n" := rfl
    _ = ("exec error: argument contains a nul byte: " ++
          "nul byte found in provided data at position: ") ++ (toString position ++ "\n") := by
      rw [hfront]
      simp only [String.append_assoc]

end ExecError

namespace Pipeline

variable {p : Pipeline} {w : World}

/-- Some argument of some stage has a byte 0 in it. -/
def HasNul (p : Pipeline) : Prop :=
  ∃ stage ∈ p.stages.toList, ∃ a ∈ stage.args, 0 ∈ encode a

instance (p : Pipeline) : Decidable p.HasNul :=
  inferInstanceAs (Decidable (∃ stage ∈ p.stages.toList, ∃ a ∈ stage.args, 0 ∈ encode a))

/-- The first argument with a byte 0, counting stages and then arguments in order, has
so many bytes in front of the first one. -/
inductive FirstNul (p : Pipeline) : Nat → Prop where
  | intro (front : List Stage) (stage : Stage) (back : List Stage)
      (before : List String) (argument : String) (behind : List String) (bytes rest : Bytes)
      (stages_eq : p.stages.toList = front ++ stage :: back)
      (args_eq : stage.args = before ++ argument :: behind)
      (encode_eq : encode argument = bytes ++ 0 :: rest)
      (front_free : ∀ s ∈ front, ∀ a ∈ s.args, 0 ∉ encode a)
      (before_free : ∀ a ∈ before, 0 ∉ encode a) (bytes_free : 0 ∉ bytes) :
      FirstNul p bytes.length

theorem HasNul.exists_firstNul (h : p.HasNul) : ∃ position, p.FirstNul position := by
  have hstage : ∃ stage ∈ p.stages.toList, decide (∃ a ∈ stage.args, 0 ∈ encode a) = true := by
    simpa [HasNul] using h
  obtain ⟨stage, hfind⟩ := Option.isSome_iff_exists.1 (List.find?_isSome.2 hstage)
  obtain ⟨hnul, front, back, hstages, hfront⟩ := List.find?_eq_some_iff_append.1 hfind
  obtain ⟨argument, hfind⟩ : ∃ a, stage.args.find? (fun a ↦ decide (0 ∈ encode a)) = some a := by
    refine Option.isSome_iff_exists.1 (List.find?_isSome.2 ?_)
    simpa using hnul
  obtain ⟨hnul, before, behind, hargs, hbefore⟩ := List.find?_eq_some_iff_append.1 hfind
  obtain ⟨bytes, rest, hbytes, hencode⟩ :=
    List.eq_append_cons_of_mem (of_decide_eq_true hnul)
  exact ⟨_, .intro front stage back before argument behind bytes rest hstages hargs hbytes
    (by simpa using hfront) (by simpa using hbefore) hencode⟩

theorem FirstNul.nulPosition?_eq {position : Nat} (h : p.FirstNul position) :
    p.nulPosition? = some position := by
  obtain ⟨front, stage, back, before, argument, behind, bytes, rest, hstages, hargs, hencode,
    hfront, hbefore, hbytes⟩ := h
  have hfound : PipeShell.nulPosition? argument = some bytes.length := by
    have hnone : bytes.findIdx? (· == 0) = none := by
      rw [List.findIdx?_eq_none_iff]
      intro b hb
      exact beq_eq_false_iff_ne.2 fun hzero ↦ hbytes (hzero ▸ hb)
    rw [PipeShell.nulPosition?, hencode, List.findIdx?_append, hnone]
    simp [List.findIdx?_cons]
  have hfront : (front.flatMap Stage.args).findSome? PipeShell.nulPosition? = none := by
    rw [List.findSome?_eq_none_iff]
    intro a ha
    obtain ⟨s, hs, ha⟩ := List.mem_flatMap.1 ha
    exact nulPosition?_of_notMem (hfront s hs a ha)
  have hbefore : before.findSome? PipeShell.nulPosition? = none := by
    rw [List.findSome?_eq_none_iff]
    exact fun a ha ↦ nulPosition?_of_notMem (hbefore a ha)
  rw [nulPosition?, hstages, List.flatMap_append, List.findSome?_append, hfront,
    List.flatMap_cons, hargs, List.append_assoc, List.findSome?_append, hbefore]
  simp [hfound]

/-! ## Runs that fail early -/

/-- A run that ends before anything has been asked of the system. -/
structure FailsUntouched (sched : Scheduler) (p : Pipeline) (d : Diagnostics) (w : World)
    (e : ExecError) (text : String) : Prop where
  /-- Nothing is started, opened or changed before the error is told. -/
  start : p.start w = ⟨[], some e, w⟩
  /-- All that happens is that this is written. -/
  execute : p.execute sched d w = (.error, (d.write w text).2)
  /-- So if it is kept in memory the world is the one that it was. -/
  kept : ∀ bytes room, d = .kept bytes room → (p.execute sched d w).2.2 = w
  /-- Wherever it is written, nothing has been requested, and no process waited for. -/
  events : (p.execute sched d w).2.2.events = w.events
  children : (p.execute sched d w).2.2.children = w.children
  table : (p.execute sched d w).2.2.table = w.table
  /-- No process has been started or has ended, and no file has been opened. -/
  files : w.machine.SameFiles (p.execute sched d w).2.2.machine

theorem failsUntouched_of_start {sched : Scheduler} {d : Diagnostics} {e : ExecError}
    {text : String} (hstart : p.start w = ⟨[], some e, w⟩)
    (htext : s!"exec error: {e.message}\n" = text) : p.FailsUntouched sched d w e text := by
  have hrun : p.execute sched d w = (.error, (d.write w text).2) := by
    rw [execute_of_some (by rw [hstart]), hstart, abandon, htext]
    rfl
  obtain ⟨htable, hchildren, hevents⟩ := d.own_write w text
  refine ⟨hstart, hrun, ?_, ?_, ?_, ?_, ?_⟩
  · rintro bytes room rfl
    rw [hrun]
    exact Diagnostics.world_write_kept bytes room w text
  all_goals rw [hrun]
  · exact hevents
  · exact hchildren
  · exact htable
  · exact d.sameFiles_write w text

/-- Of a pipeline whose input file cannot be opened no stage is started. -/
theorem start_of_input_error {path : String} {cause : FileError} (hstages : p.stages.toList ≠ [])
    (hnul : ¬ p.HasNul) (hinput : p.input = some path)
    (hopen : w.openFile path .read = .error cause) :
    p.start w = ⟨[], some (.openFile path .reading cause), w⟩ := by
  have hnone : p.nulPosition? = none :=
    nulPosition?_eq_none fun stage hstage a ha hzero ↦ hnul ⟨stage, hstage, a, ha, hzero⟩
  obtain ⟨stage, rest, hcons⟩ := List.exists_cons_of_ne_nil hstages
  have hindex : (Wiring.ofPipeline p).index ≠ (Wiring.ofPipeline p).count := by
    have hsize : 0 < p.stages.size := by
      rw [← Growable.length_toList]
      exact List.length_pos_iff.2 hstages
    exact Nat.ne_of_lt hsize
  have hfails : (Wiring.ofPipeline p).nextInput w = .error (.openFile path .reading cause) := by
    simp [Wiring.nextInput, Wiring.ofPipeline, Wiring.openEnd, hinput, hopen]
  have hnext : (Wiring.ofPipeline p).next w =
      (.error (.openFile path .reading cause), .ofPipeline p, w) := by
    rw [Wiring.next, if_neg hindex, hfails]
  rw [start, hnone, hcons]
  dsimp only
  rw [startStages, hnext]
  rfl

/-- A byte 0 in an argument, and else an input file that cannot be opened, keeps a run
from doing anything but telling so. -/
theorem fails_untouched (sched : Scheduler) (p : Pipeline) (d : Diagnostics) (w : World)
    (hstages : p.stages.toList ≠ []) :
    (p.HasNul → ∃ position, p.FirstNul position ∧
      p.FailsUntouched sched d w (.nulInArgument position)
        ("exec error: argument contains a nul byte: " ++
          "nul byte found in provided data at position: " ++ s!"{position}\n")) ∧
    (¬ p.HasNul → ∀ path cause, p.input = some path → w.openFile path .read = .error cause →
      p.FailsUntouched sched d w (.openFile path .reading cause)
        s!"exec error: unable to open '{path}' for reading: {cause.message}\n") := by
  refine ⟨fun hnul ↦ ?_, fun hnul path cause hinput hopen ↦ ?_⟩
  · obtain ⟨position, hfirst⟩ := hnul.exists_firstNul
    have hstart : p.start w = ⟨[], some (.nulInArgument position), w⟩ := by
      rw [start, hfirst.nulPosition?_eq]
    exact ⟨position, hfirst, failsUntouched_of_start hstart (ExecError.line_nulInArgument position)⟩
  · have hstart := start_of_input_error hstages hnul hinput hopen
    exact failsUntouched_of_start hstart (ExecError.line_openFile path .reading cause)

/-- A byte 0 behind an input file that is not there, and that file alone: the output
file is not made in either case. -/
theorem fails_untouched_missing_input :
    let w : World := ⟨⟨.empty, #[], #[], #[], 0⟩, .empty, Tree.root, [], #[], [], .none⟩
    let path := "in"
    let cause : FileError := .refused .noEntry
    let p : Pipeline := ⟨.ofList [.ofProgram "cat", ⟨"cat", #["x\x00"]⟩], some path, some "out"⟩
    let q : Pipeline := ⟨.ofList [.ofProgram "cat"], some path, some "out"⟩
    (p.HasNul ∧ p.FailsUntouched (.fair 8 64) .unlimited w (.nulInArgument 1)
      ("exec error: argument contains a nul byte: " ++
        "nul byte found in provided data at position: " ++ s!"{1}\n")) ∧
    (¬ q.HasNul ∧ q.FailsUntouched (.fair 8 64) .unlimited w (.openFile path .reading cause)
      s!"exec error: unable to open '{path}' for reading: {cause.message}\n") := by
  intro w path cause p q
  have hnul : p.HasNul := by decide +kernel
  have hfree : ¬ q.HasNul := by decide +kernel
  have hfailure : (p.start w).failure = some (.nulInArgument 1) := by decide +kernel
  have hmissing : w.openFile path .read = .error cause := by cbv
  obtain ⟨position, hfirst, huntouched⟩ :=
    (fails_untouched (.fair 8 64) p .unlimited w (by decide)).1 hnul
  rw [huntouched.start] at hfailure
  obtain rfl : position = 1 := by simpa using hfailure
  exact ⟨⟨hnul, huntouched⟩, hfree,
    (fails_untouched (.fair 8 64) q .unlimited w (by decide)).2 hfree path cause rfl hmissing⟩

end Pipeline

end PipeShell

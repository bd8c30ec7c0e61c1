import Mathlib
import PipeShell.Proofs.ArrayHistories
import PipeShell.Proofs.HopelessTokens
import PipeShell.Proofs.OwnLines

/-!
# A reader never loses its room

The room in which stages are gathered leaves a reader with a pipeline and comes back when the
pipeline is given back; a line that is turned down half-way leaves it where it is.  So as long
as every pipeline is given back, the room of the reader is the least power of two that was
enough for the stages of each of its lines, whatever has become of the lines.
-/

namespace PipeShell

universe u

/-! ## The stages that a line closes -/

namespace LineFront

variable {front : List Token} {t : Token}

/-- Every token can stand behind those in front of it. -/
def Faultless (tokens : List Token) : Prop :=
  ∀ before t, before ++ [t] <+: tokens → ∀ e, ¬ Fault before (.token t) e

/-- The last token is the program behind a pipe, which closes the stage before it. -/
def Closing (tokens : List Token) : Prop :=
  Faultless tokens ∧ ∃ before program, tokens = before ++ [.word program] ∧ Awaiting before

/-- What a line begins with up to each of the programs that close a stage. -/
def closings (tokens : List Token) : Set (List Token) :=
  {front | front <+: tokens ∧ Closing front}

/-- The number of stages that a line closes up to its first fault, or up to its end if none of
its tokens is at fault. -/
noncomputable def closedStages (tokens : List Token) : ℕ :=
  (closings tokens).ncard

theorem faultless_nil : Faultless [] := by
  intro before t hbefore
  simp at hbefore

theorem faultless_concat :
    Faultless (front ++ [t]) ↔ Faultless front ∧ ∀ e, ¬ Fault front (.token t) e := by
  constructor
  · intro h
    refine ⟨fun before t' hbefore ↦ ?_, h front t List.prefix_rfl⟩
    exact h before t' (hbefore.trans (List.prefix_append _ _))
  · rintro ⟨hfront, hlast⟩ before t' hbefore
    obtain heq | hearlier := List.prefix_concat_iff.1 hbefore
    · obtain ⟨rfl, htoken⟩ := List.append_inj' heq rfl
      obtain rfl := List.head_eq_of_cons_eq htoken
      exact hlast
    · exact hfront before t' hearlier

theorem not_closing_nil : ¬ Closing [] := by
  rintro ⟨-, before, program, heq, -⟩
  exact List.append_ne_nil_of_right_ne_nil _ (List.cons_ne_nil _ _) heq.symm

theorem closing_concat :
    Closing (front ++ [t]) ↔ Faultless (front ++ [t]) ∧ Awaiting front ∧ ∃ w, t = .word w := by
  constructor
  · rintro ⟨hfaultless, before, program, heq, hawaiting⟩
    obtain ⟨hfront, rfl⟩ := of_concat_eq [] heq
    rw [List.append_nil] at hfront
    exact ⟨hfaultless, hfront ▸ hawaiting, program, rfl⟩
  · rintro ⟨hfaultless, hawaiting, w, rfl⟩
    exact ⟨hfaultless, front, w, rfl, hawaiting⟩

theorem finite_closings (tokens : List Token) : (closings tokens).Finite := by
  refine tokens.inits.finite_toSet.subset ?_
  rintro front ⟨hfront, -⟩
  exact (List.mem_inits _ _).2 hfront

theorem closings_nil : closings [] = ∅ := by
  ext front
  simp only [closings, List.prefix_nil, Set.mem_ofPred_eq, Set.mem_empty_iff_false, iff_false]
  rintro ⟨rfl, hclosing⟩
  exact not_closing_nil hclosing

theorem closings_concat_of_closing (h : Closing (front ++ [t])) :
    closings (front ++ [t]) = insert (front ++ [t]) (closings front) := by
  ext front'
  simp only [closings, List.prefix_concat_iff, Set.mem_ofPred_eq, Set.mem_insert_iff]
  constructor
  · rintro ⟨rfl | hfront, hclosing⟩
    · exact .inl rfl
    · exact .inr ⟨hfront, hclosing⟩
  · rintro (rfl | ⟨hfront, hclosing⟩)
    · exact ⟨.inl rfl, h⟩
    · exact ⟨.inr hfront, hclosing⟩

theorem closings_concat_of_not_closing (h : ¬ Closing (front ++ [t])) :
    closings (front ++ [t]) = closings front := by
  ext front'
  simp only [closings, List.prefix_concat_iff, Set.mem_ofPred_eq]
  constructor
  · rintro ⟨rfl | hfront, hclosing⟩
    · exact absurd hclosing h
    · exact ⟨hfront, hclosing⟩
  · rintro ⟨hfront, hclosing⟩
    exact ⟨.inr hfront, hclosing⟩

theorem concat_notMem_closings (front : List Token) (t : Token) :
    front ++ [t] ∉ closings front := by
  rintro ⟨hfront, -⟩
  simpa using hfront.length_le

theorem closedStages_nil : closedStages [] = 0 := by
  rw [closedStages, closings_nil, Set.ncard_empty]

theorem closedStages_concat_of_closing (h : Closing (front ++ [t])) :
    closedStages (front ++ [t]) = closedStages front + 1 := by
  have hnew := concat_notMem_closings front t
  rw [closedStages, closings_concat_of_closing h,
    Set.ncard_insert_of_notMem hnew (finite_closings front), closedStages]

theorem closedStages_concat_of_not_closing (h : ¬ Closing (front ++ [t])) :
    closedStages (front ++ [t]) = closedStages front := by
  rw [closedStages, closings_concat_of_not_closing h, closedStages]

end LineFront

open Growable (Tight)
open LineFront (Faultless Closing Awaiting closedStages)

/-! ## The stages in the array of a line -/

/-- A pipe has been read, and behind it no program. -/
def Phase.awaitsProgram : Phase → Bool
  | .pipeline d => d.awaitsProgram
  | _ => false

theorem Phase.awaitsProgram_iff {phase : Phase} {front : List Token} (h : phase.Records front)
    (hgoes : ∀ e, phase ≠ .refused e) : phase.awaitsProgram = true ↔ Awaiting front := by
  cases phase with
  | pipeline d => exact Draft.Records.awaitsProgram h
  | outputFile d | inputFile d =>
      obtain ⟨before, rfl, hrecords, -⟩ := h
      simp [awaitsProgram, LineFront.awaiting_concat hrecords.inPipeline.noOutputDue]
  | refused e => exact absurd rfl (hgoes e)
  | _ =>
      obtain rfl := h
      refine ⟨nofun, fun hawaiting ↦ ?_⟩
      simpa using hawaiting.pipe_mem

namespace LineState

variable {closed : Growable Stage} {tokens : List Token} {s : LineState} {e : LineEnd}

theorem closed_stepPipeline_cases (closed : Growable Stage) (d : Draft) (t : Token) :
    ((d.awaitsProgram = true ∧ ∃ w, t = .word w) ∧
        ∃ stage, (stepPipeline closed d t).closed = closed.push stage) ∨
      (¬ (d.awaitsProgram = true ∧ ∃ w, t = .word w) ∧
        (stepPipeline closed d t).closed = closed) := by
  cases t with
  | word w =>
      simp only [stepPipeline]
      split
      next hawaits => exact .inl ⟨⟨hawaits, w, rfl⟩, d.current, rfl⟩
      next hawaits => exact .inr ⟨fun h ↦ hawaits h.1, rfl⟩
  | _ =>
      refine .inr ⟨by simp, ?_⟩
      simp only [stepPipeline]
      split <;> rfl

/-- A token closes a stage exactly if it is the program that a pipe awaits. -/
theorem closed_step_cases (s : LineState) (t : Token) :
    ((s.phase.awaitsProgram = true ∧ ∃ w, t = .word w) ∧
        ∃ stage, (s.step t).closed = s.closed.push stage) ∨
      (¬ (s.phase.awaitsProgram = true ∧ ∃ w, t = .word w) ∧ (s.step t).closed = s.closed) := by
  obtain ⟨closed, phase⟩ := s
  cases phase with
  | pipeline d => exact closed_stepPipeline_cases closed d t
  | exit =>
      obtain ⟨⟨hawaits, -⟩, -⟩ | ⟨-, hsame⟩ :=
        closed_stepPipeline_cases closed (.ofProgram "exit") t
      · cases hawaits
      · exact .inr ⟨fun h ↦ Bool.false_ne_true h.1, hsame⟩
  | start =>
      refine .inr ⟨fun h ↦ Bool.false_ne_true h.1, ?_⟩
      cases t with
      | word w =>
          simp only [step]
          split
          · rfl
          · split <;> rfl
      | _ => rfl
  | _ => cases t <;> exact .inr ⟨fun h ↦ Bool.false_ne_true h.1, rfl⟩

theorem goesOn_of_awaitsProgram (h : s.phase.awaitsProgram = true) : s.GoesOn := by
  intro e hrefused
  rw [hrefused] at h
  cases h

theorem goesOn_step_of_awaitsProgram (h : s.phase.awaitsProgram = true) (w : String) :
    (s.step (.word w)).GoesOn := by
  obtain ⟨closed, phase⟩ := s
  cases phase with
  | pipeline d =>
      have hawaits : d.awaitsProgram = true := h
      simp [GoesOn, step, stepPipeline, hawaits]
  | _ => cases h

/-- A line goes on as long as none of its tokens is at fault. -/
theorem goesOn_iff_faultless (closed : Growable Stage) (tokens : List Token) :
    (ofTokens closed tokens).GoesOn ↔ Faultless tokens := by
  induction tokens using List.reverseRecOn with
  | nil => exact ⟨fun _ ↦ LineFront.faultless_nil, fun _ ↦ nofun⟩
  | append_singleton tokens t ih =>
      have hrecords := records_ofTokens closed tokens
      rw [LineFront.faultless_concat, ← ih, ofTokens_concat]
      -- What has been refused stays so; before that, only a fault is refused.
      constructor
      · intro hgoes
        have hbefore : (ofTokens closed tokens).GoesOn := fun e hrefused ↦
          hgoes e (foldl_step_of_refused hrefused [t])
        refine ⟨hbefore, fun e hfault ↦ hgoes e ?_⟩
        exact (refuses_iff_fault hrecords hbefore).2 hfault
      · rintro ⟨hbefore, hnone⟩ e hrefused
        exact hnone e ((refuses_iff_fault hrecords hbefore).1 hrefused)

theorem closing_iff_awaitsProgram (closed : Growable Stage) (tokens : List Token) (t : Token) :
    Closing (tokens ++ [t]) ↔
      (ofTokens closed tokens).phase.awaitsProgram = true ∧ ∃ w, t = .word w := by
  have hrecords := records_ofTokens closed tokens
  rw [LineFront.closing_concat]
  constructor
  · rintro ⟨hfaultless, hawaiting, hprogram⟩
    have hgoes : (ofTokens closed tokens).GoesOn :=
      (goesOn_iff_faultless closed tokens).2 (LineFront.faultless_concat.1 hfaultless).1
    exact ⟨(Phase.awaitsProgram_iff hrecords hgoes).2 hawaiting, hprogram⟩
  · rintro ⟨hawaits, w, rfl⟩
    have hgoes : (ofTokens closed (tokens ++ [.word w])).GoesOn := by
      rw [ofTokens_concat]
      exact goesOn_step_of_awaitsProgram hawaits w
    refine ⟨(goesOn_iff_faultless closed _).1 hgoes, ?_, w, rfl⟩
    exact (Phase.awaitsProgram_iff hrecords (goesOn_of_awaitsProgram hawaits)).1 hawaits

/-- The stages that a line adds to an array are those that it closes. -/
theorem size_closed_ofTokens (closed : Growable Stage) (tokens : List Token) :
    (ofTokens closed tokens).closed.size = closed.size + closedStages tokens := by
  induction tokens using List.reverseRecOn with
  | nil =>
      rw [LineFront.closedStages_nil]
      rfl
  | append_singleton tokens t ih =>
      rw [ofTokens_concat]
      obtain ⟨hprogram, stage, hpush⟩ | ⟨hother, hsame⟩ :=
        (ofTokens closed tokens).closed_step_cases t
      · rw [← closing_iff_awaitsProgram] at hprogram
        rw [hpush, Growable.size_push, ih, LineFront.closedStages_concat_of_closing hprogram,
          Nat.add_assoc]
      · rw [← closing_iff_awaitsProgram] at hother
        rw [hsame, ih, LineFront.closedStages_concat_of_not_closing hother]

theorem tight_step {peak : ℕ} (h : Tight s.closed (max peak s.closed.size)) (t : Token) :
    Tight (s.step t).closed (max peak (s.step t).closed.size) := by
  obtain ⟨-, stage, hpush⟩ | ⟨-, hsame⟩ := s.closed_step_cases t
  · rw [hpush]
    exact h.push_of_size stage
  · rwa [hsame]

theorem tight_ofTokens {peak : ℕ} (h : Tight closed peak) (tokens : List Token) :
    Tight (ofTokens closed tokens).closed (max peak (ofTokens closed tokens).closed.size) := by
  induction tokens using List.reverseRecOn with
  | nil => exact (max_eq_left h.size_le).symm ▸ h
  | append_singleton tokens t ih =>
      rw [ofTokens_concat]
      exact tight_step ih t

theorem exists_stages_of_run {p : Pipeline} (h : s.finish e = .run p) :
    ∃ stage, p.stages = s.closed.push stage := by
  obtain ⟨closed, phase⟩ := s
  cases phase with
  | pipeline d =>
      cases e with
      | newline =>
          simp only [finish] at h
          split at h
          · cases h
          · cases h
            exact ⟨d.current, rfl⟩
      | endOfInput => cases h
  | _ => cases e <;> cases h

theorem phase_of_finish (hrun : ∀ p, s.finish e ≠ .run p)
    (hrefused : ∀ e', s.finish e ≠ .refused e') :
    s.phase = .start ∨ s.phase = .exit ∨ ∃ directory, s.phase = .cdTo directory := by
  obtain ⟨closed, phase⟩ := s
  cases phase with
  | start => exact .inl rfl
  | exit => exact .inr (.inl rfl)
  | cdTo directory => exact .inr (.inr ⟨directory, rfl⟩)
  | pipeline d =>
      cases e with
      | newline =>
          simp only [finish] at hrun hrefused
          split at hrun
          next hawaits => exact absurd (if_pos hawaits) (hrefused _)
          next => exact absurd rfl (hrun _)
      | endOfInput => exact absurd rfl (hrefused _)
  | _ => exact absurd rfl (hrefused _)

/-- A line that is neither a pipeline nor turned down closes no stage. -/
theorem closed_of_finish (hrun : ∀ p, (ofTokens closed tokens).finish e ≠ .run p)
    (hrefused : ∀ e', (ofTokens closed tokens).finish e ≠ .refused e') :
    (ofTokens closed tokens).closed = closed := by
  have hrecords := records_ofTokens closed tokens
  obtain hphase | hphase | ⟨directory, hphase⟩ := phase_of_finish hrun hrefused
  all_goals
    rw [hphase] at hrecords
    obtain rfl := hrecords
    rfl

end LineState

theorem Command.ne_run_or_refused_of_settle {c : Command} {w : World}
    (h : (c.settle w).1 = .nothing ∨ (c.settle w).1 = .leave) :
    (∀ p, c ≠ .run p) ∧ ∀ e, c ≠ .refused e := by
  constructor
  · rintro p rfl
    obtain h | h := h <;> cases h
  · rintro e rfl
    obtain h | h := h <;> cases h

/-! ## The room of a reader -/

namespace CommandReader

section Read

variable {τ : Type u} [SymbolSource τ] {r : CommandReader} {s : τ}

theorem read_reader_of_run {p : Pipeline} (h : (r.read s).1 = .run p) :
    (r.read s).2.1 = new := by
  rw [read_command] at h
  rw [read_reader, LineState.close]
  split
  · rfl
  · simp_all

theorem read_reader_of_ne_run (h : ∀ p, (r.read s).1 ≠ .run p) :
    (r.read s).2.1 =
      ⟨(LineState.ofTokens r.buffer.clear (SymbolSource.takeLine s).1).closed.clear⟩ := by
  simp only [read_command] at h
  rw [read_reader, LineState.close]
  split
  · simp_all
  · rfl

end Read

/-- What a reader is used for once: the stream that it reads a line from, and the world in
which the line is carried out. -/
structure Round where
  {τ : Type u}
  [source : SymbolSource τ]
  stream : τ
  world : World

attribute [instance] Round.source

def Round.tokens (round : Round.{u}) : List Token :=
  (SymbolSource.takeLine round.stream).1

def answer (r : CommandReader) (round : Round.{u}) : Outcome :=
  ((r.read round.stream).1.settle round.world).1

/-- The reader at the end of a round, when the pipeline that its line may have been has been
given back. -/
def after (r : CommandReader) (round : Round.{u}) : CommandReader :=
  match r.answer round with
  | .run p => (r.read round.stream).2.1.recycle p
  | _ => (r.read round.stream).2.1

/-- The number of stages gathered in a round: all of a pipeline, and of a line that is turned
down those closed before its error. -/
noncomputable def gathered (r : CommandReader) (round : Round.{u}) : ℕ :=
  match r.answer round with
  | .run p => p.stages.size
  | .error _ => closedStages round.tokens
  | .nothing => 0
  | .leave => 0

/-- The numbers of stages gathered in the rounds of a history, in order. -/
noncomputable def gatheredIn (r : CommandReader) : List Round.{u} → List ℕ
  | [] => []
  | round :: history => r.gathered round :: (r.after round).gatheredIn history

/-- What the line of a round has come to when its last token has been read. -/
def lineState (r : CommandReader) (round : Round.{u}) : LineState :=
  LineState.ofTokens r.buffer.clear round.tokens

variable {r : CommandReader} {round : Round.{u}} {p : Pipeline} {peak : ℕ}

theorem after_of_run (h : r.answer round = .run p) : r.after round = new.recycle p := by
  have hread : (r.read round.stream).1 = .run p := Command.run_of_settle h
  rw [after, h, ← read_reader_of_run hread]

theorem after_of_ne_run (h : ∀ p, r.answer round ≠ .run p) :
    r.after round = ⟨(r.lineState round).closed.clear⟩ := by
  have hread : ∀ p, (r.read round.stream).1 ≠ .run p := by
    intro p hrun
    apply h p
    rw [answer, hrun]
    rfl
  unfold after
  split
  next p hanswer => exact absurd hanswer (h p)
  next => exact read_reader_of_ne_run hread

theorem closed_lineState (h : r.answer round = .nothing ∨ r.answer round = .leave) :
    (r.lineState round).closed = r.buffer.clear := by
  rw [answer, read_command] at h
  obtain ⟨hrun, hrefused⟩ := Command.ne_run_or_refused_of_settle h
  exact LineState.closed_of_finish hrun hrefused

/-- Unless the line is a pipeline, whose last stage its end closes, the stages gathered are
those closed by its tokens. -/
theorem size_closed_of_ne_run (h : ∀ p, r.answer round ≠ .run p) :
    (r.lineState round).closed.size = r.gathered round := by
  cases hanswer : r.answer round with
  | run p => exact absurd hanswer (h p)
  | error e =>
      rw [gathered, hanswer, lineState, LineState.size_closed_ofTokens]
      exact Nat.zero_add _
  | nothing =>
      rw [gathered, hanswer, closed_lineState (.inl hanswer)]
      rfl
  | leave =>
      rw [gathered, hanswer, closed_lineState (.inr hanswer)]
      rfl

theorem tight_lineState (h : Tight r.buffer peak) (round : Round.{u}) :
    Tight (r.lineState round).closed (max peak (r.lineState round).closed.size) :=
  LineState.tight_ofTokens h.clear round.tokens

theorem tight_stages (h : Tight r.buffer peak) (hrun : (r.read round.stream).1 = .run p) :
    Tight p.stages (max peak p.stages.size) := by
  rw [read_command] at hrun
  obtain ⟨stage, hstages⟩ := LineState.exists_stages_of_run hrun
  rw [hstages]
  exact (tight_lineState h round).push_of_size stage

theorem tight_recycle (h : Tight p.stages peak) : Tight (new.recycle p).buffer peak := by
  unfold recycle
  split
  next => exact h.clear
  next hroom =>
    -- A pipeline that has no more room than a new reader has room for one stage too.
    have hnew : new.buffer.capacity = 1 := rfl
    have hpos : 0 < p.stages.capacity := h.capacity_eq ▸ Nat.two_pow_pos _
    refine ⟨Nat.zero_le peak, ?_⟩
    rw [← h.capacity_eq, hnew]
    omega

theorem tight_after (h : Tight r.buffer peak) (round : Round.{u}) :
    Tight (r.after round).buffer (max peak (r.gathered round)) := by
  by_cases hrun : ∃ p, r.answer round = .run p
  · -- The room goes out with the pipeline and comes back with it.
    obtain ⟨p, hanswer⟩ := hrun
    rw [after_of_run hanswer, gathered, hanswer]
    exact tight_recycle (tight_stages h (Command.run_of_settle hanswer))
  · -- It stays with the reader, with the places made for the stages closed so far.
    have hne := not_exists.1 hrun
    rw [after_of_ne_run hne, ← size_closed_of_ne_run hne]
    exact (tight_lineState h round).clear

theorem tight_foldl_after (h : Tight r.buffer peak) (history : List Round.{u}) :
    Tight (history.foldl after r).buffer ((r.gatheredIn history).foldl max peak) := by
  induction history generalizing r peak with
  | nil => exact h
  | cons round history ih => exact ih (tight_after h round)

theorem capacity_le_foldl_after (h : Tight r.buffer peak) (history : List Round.{u}) :
    r.buffer.capacity ≤ (history.foldl after r).buffer.capacity := by
  induction history generalizing r peak with
  | nil => exact Nat.le_refl _
  | cons round history ih =>
      have hround := tight_after h round
      exact (h.capacity_le hround (le_max_left _ _)).trans (ih hround)

/-- When every pipeline has been given back, the room of a reader is the least power of two
that was enough for one stage and for those gathered in each round: all stages of a pipeline,
those closed before the error of a line that was turned down, and none of any other line.  So
whatever it reads more, its room never shrinks. -/
theorem keeps_greatest_room (history more : List Round.{u}) :
    IsLeast {room | (∃ k, room = 2 ^ k) ∧ max 1 ((new.gatheredIn history).foldl max 0) ≤ room}
        (history.foldl after new).buffer.capacity ∧
      (history.foldl after new).buffer.capacity ≤
        ((history ++ more).foldl after new).buffer.capacity := by
  have hhistory := tight_foldl_after (r := new) Growable.tight_empty history
  refine ⟨hhistory.isLeast, ?_⟩
  rw [List.foldl_append]
  exact capacity_le_foldl_after hhistory more

/-- Two stages are closed before the first line is turned down, the second one is a pipeline
of five stages, and the last one needs no more room than there is. -/
example :
    let w : World := ⟨⟨⟨#[]⟩, #[], #[], #[], 0⟩, ⟨[]⟩, 0, [], #[], [], .none⟩
    let history := [[.word "a", .pipe, .word "b", .pipe, .word "c", .readFrom],
      [.word "a", .pipe, .word "b", .pipe, .word "c", .pipe, .word "d", .pipe, .word "e"],
      [.word "f"]].map fun tokens ↦ Round.mk (Symbol.ofLine tokens) w
    (List.range 4).map (fun k ↦ ((history.take k).foldl after new).buffer.capacity) =
      [1, 2, 8, 8] := by
  cbv

end CommandReader

end PipeShell

import PipeShell.Proofs.Chains
import PipeShell.Proofs.LiveEnds

/-!
# Refused calls

A wiring can be asked again for a stage that it has refused.  The first stage loses
nothing by a refusal.  Any other one does: the read end that is kept for it is taken before
its output file is opened or its pipe is made, and given up when that fails.  From then on
the wiring takes the stage for the first one, and gives it the input file or the standard
input.
-/

namespace PipeShell

/-- The wiring has refused a stage before. -/
def Handout.Refused (s : Handout) (i : Nat) : Prop :=
  ∃ c ∈ s.calls, c.wiring.index = i ∧ ∃ e, c.answer = .error e

theorem Handout.refused_call_iff {s : Handout} {answer : Except ExecError (Option StageEnds)}
    {wiring : Wiring} {w : World} (hnext : s.wiring.next s.world = (answer, wiring, w)) {i : Nat} :
    s.call.Refused i ↔ s.Refused i ∨ s.wiring.index = i ∧ ∃ e, answer = .error e := by
  simp only [Refused, call_eq hnext, List.mem_append, List.mem_singleton, or_and_right, exists_or,
    exists_eq_left]

/-! ## Calls after refusals -/

/-- What is at fault when a stage behind the first one is refused for the first time: the
output file, if it is the last stage, and else the system, which has no pipe. -/
def Handout.Faulty (p : Pipeline) (s : Handout) (i : Nat) : Prop :=
  i + 1 = p.stages.size ∧ p.output ≠ none ∨
    i + 1 < p.stages.size ∧
      ∃ c ∈ s.calls, c.wiring.index = i ∧ ∃ e, c.answer = .error (.pipe e)

theorem Handout.Faulty.mono {p : Pipeline} {s s' : Handout} {i : Nat} (h : s.Faulty p i)
    (hcalls : s.calls ⊆ s'.calls) : s'.Faulty p i := by
  rcases h with hlast | ⟨hmore, c, hc, hpipe⟩
  · exact .inl hlast
  · exact .inr ⟨hmore, c, hcalls hc, hpipe⟩

/-- The calls so far, some of which may have been refused. -/
structure Tried (p : Pipeline) (s : Handout) : Prop where
  wiring : s.wiring = .before p s.got.length s.wiring.carried
  length : s.got.length ≤ p.stages.size
  refused : ∀ i, s.Refused i → i ≤ s.got.length
  faulty : ∀ i, s.Refused (i + 1) → s.Faulty p (i + 1)
  /-- Nothing is kept for the first stage, and for one that has been refused before. -/
  kept : s.got.length < p.stages.size →
    (s.wiring.carried = none ↔ s.got.length = 0 ∨ s.Refused s.got.length)

namespace Tried

variable {p : Pipeline} {s : Handout} {wiring : Wiring} {w : World}
  {ends : StageEnds} {e : ExecError} {i : Nat} {fd : Descriptor}

theorem begin (p : Pipeline) (w : World) : Tried p (.begin p w) :=
  ⟨rfl, Nat.zero_le _, fun _ ⟨_, hc, _⟩ ↦ (nomatch hc), fun _ ⟨_, hc, _⟩ ↦ (nomatch hc),
    fun _ ↦ iff_of_true rfl (.inl rfl)⟩

theorem index (h : Tried p s) : s.wiring.index = s.got.length :=
  congrArg Wiring.index h.wiring

theorem count (h : Tried p s) : s.wiring.count = p.stages.size :=
  congrArg Wiring.count h.wiring

theorem lt_size (h : Tried p s) (hindex : s.wiring.index ≠ s.wiring.count) :
    s.got.length < p.stages.size := by
  rw [h.index, h.count] at hindex
  exact Nat.lt_of_le_of_ne h.length hindex

/-! ## One move -/

/-- Where no call is made, nothing is refused either. -/
theorem congr {s' : Handout} (h : Tried p s) (hwiring : s'.wiring = s.wiring)
    (hgot : s'.got = s.got) (hrefused : ∀ i, s'.Refused i ↔ s.Refused i)
    (hcalls : s.calls ⊆ s'.calls) : Tried p s' := by
  refine ⟨?_, ?_, fun i hi ↦ ?_, fun i hi ↦ ?_, fun hk ↦ ?_⟩
  · rw [hwiring, hgot]
    exact h.wiring
  · rw [hgot]
    exact h.length
  · rw [hgot]
    exact h.refused i ((hrefused i).1 hi)
  · exact (h.faulty i ((hrefused _).1 hi)).mono hcalls
  · rw [hgot] at hk ⊢
    rw [hwiring, hrefused]
    exact h.kept hk

theorem step_of_ne (h : Tried p s) {move : Move} (hmove : move ≠ .next) :
    Tried p (s.step move) := by
  obtain ⟨hwiring, hcalls⟩ := Handout.step_of_ne hmove (s := s)
  refine h.congr hwiring ?_ (fun i ↦ ?_) (s.calls_subset_step move)
  · rw [Handout.got, hcalls, Handout.got]
  · rw [Handout.Refused, hcalls, Handout.Refused]

theorem call_none (h : Tried p s)
    (hnext : s.wiring.next s.world = (.ok none, wiring, w)) : Tried p s.call := by
  obtain ⟨-, rfl, rfl⟩ := Wiring.index_of_next_none hnext
  refine h.congr ?_ ?_ (fun i ↦ ?_) (s.calls_subset_step .next)
  · rw [Handout.call_eq hnext]
  · exact (Handout.got_call hnext).trans (List.append_nil _)
  · exact (Handout.refused_call_iff hnext).trans (or_iff_left fun hnew ↦ nomatch hnew.2)

/-- Of the stages behind the first one, the last one is refused for its output file and the
others for want of a pipe, unless they have been refused before. -/
theorem faulty_of_error (h : Tried p s)
    (hnext : s.wiring.next s.world = (.error e, wiring, w)) (hi : s.got.length = i + 1) :
    s.call.Faulty p (i + 1) := by
  obtain ⟨hindex, hrefuses⟩ := Wiring.refuses_of_next hnext
  have hk := h.lt_size hindex
  by_cases hcarried : s.wiring.carried = none
  · -- Without a read end it has been refused before.
    have hagain := ((h.kept hk).1 hcarried).resolve_left (by omega)
    rw [hi] at hagain
    exact (h.faulty i hagain).mono (s.calls_subset_step .next)
  · rcases hrefuses.of_carried hcarried with ⟨hlast, houtput⟩ | ⟨hmore, cause, rfl⟩
    · rw [h.index, h.count, hi] at hlast
      rw [h.wiring] at houtput
      exact .inl ⟨hlast, houtput⟩
    · rw [h.index, h.count, hi] at hmore
      rw [hi] at hk
      exact .inr ⟨Nat.lt_of_le_of_ne hk hmore, _, Handout.mem_calls_call hnext,
        h.index.trans hi, cause, rfl⟩

theorem call_error (h : Tried p s)
    (hnext : s.wiring.next s.world = (.error e, wiring, w)) : Tried p s.call := by
  obtain ⟨-, hrefuses⟩ := Wiring.refuses_of_next hnext
  have hgot : s.call.got = s.got := (Handout.got_call hnext).trans (List.append_nil _)
  have hwiring : s.call.wiring = { s.wiring with carried := none } := by
    rw [Handout.call_eq hnext]
    exact hrefuses.wiring_eq
  have hrefused : ∀ {i}, s.call.Refused i ↔ s.Refused i ∨ s.got.length = i := by
    intro i
    rw [Handout.refused_call_iff hnext, h.index]
    exact or_congr_right (and_iff_left ⟨e, rfl⟩)
  refine ⟨?_, ?_, fun i hi ↦ ?_, fun i hi ↦ ?_, fun _ ↦ ?_⟩
  · rw [hwiring, hgot, h.wiring]
    rfl
  · rw [hgot]
    exact h.length
  · rw [hgot]
    rcases hrefused.1 hi with hi | hi
    · exact h.refused i hi
    · exact Nat.le_of_eq hi.symm
  · rcases hrefused.1 hi with hi | hi
    · exact (h.faulty i hi).mono (s.calls_subset_step .next)
    · exact h.faulty_of_error hnext hi
  · rw [hwiring, hgot]
    exact iff_of_true rfl (.inr (hrefused.2 (.inr rfl)))

theorem call_some (h : Tried p s)
    (hnext : s.wiring.next s.world = (.ok (some ends), wiring, w)) : Tried p s.call := by
  obtain ⟨hindex, hsupplies⟩ := Wiring.supplies_of_next hnext
  have hk := h.lt_size hindex
  have hlength : s.call.got.length = s.got.length + 1 := by
    rw [Handout.got_call hnext]
    exact List.length_append
  have hwiring : s.call.wiring = .before p (s.got.length + 1) ends.stray := by
    rw [Handout.call_eq hnext, hsupplies.wiring_eq, h.wiring]
    rfl
  have hcarried : s.call.wiring.carried = ends.stray := congrArg Wiring.carried hwiring
  have hrefused : ∀ {i}, s.call.Refused i ↔ s.Refused i :=
    (Handout.refused_call_iff hnext).trans (or_iff_left fun hnew ↦ nomatch hnew.2)
  refine ⟨?_, ?_, fun i hi ↦ ?_, fun i hi ↦ ?_, fun hmore ↦ ?_⟩
  · rw [hcarried, hlength]
    exact hwiring
  · rw [hlength]
    exact hk
  · rw [hlength]
    exact Nat.le_succ_of_le (h.refused i (hrefused.1 hi))
  · exact (h.faulty i (hrefused.1 hi)).mono (s.calls_subset_step .next)
  · -- The stage behind this one has a read end, and has not had its turn.
    rw [hlength] at hmore ⊢
    have hstray : ends.stray ≠ none := by
      obtain ⟨w₁, -, hopens⟩ := hsupplies.opens
      rw [h.index, h.count, if_neg (Nat.ne_of_lt hmore)] at hopens
      obtain ⟨reader, writer, -, -, hreader⟩ := hopens
      rw [hreader]
      exact nofun
    rw [hcarried]
    refine iff_of_false hstray (not_or.2 ⟨Nat.succ_ne_zero _, fun hi ↦ ?_⟩)
    exact absurd (h.refused _ (hrefused.1 hi)) (Nat.not_succ_le_self _)

theorem step (h : Tried p s) (move : Move) : Tried p (s.step move) := by
  by_cases hmove : move = .next
  · subst hmove
    rcases Handout.call_cases s with ⟨e, wiring, w, hnext⟩ | ⟨wiring, w, hnext⟩ |
      ⟨ends, wiring, w, hnext⟩
    · exact h.call_error hnext
    · exact h.call_none hnext
    · exact h.call_some hnext
  · exact h.step_of_ne hmove

end Tried

theorem tried_run (p : Pipeline) (w : World) (moves : List Move) :
    Tried p ((Handout.begin p w).run moves) ∧
      ((Handout.begin p w).run moves).Live p w := by
  induction moves using List.reverseRecOn with
  | nil => exact ⟨.begin p w, .begin p w⟩
  | append_singleton moves move ih =>
      rw [Handout.run_append_singleton]
      exact ⟨ih.1.step move, ih.2.step move⟩

/-! ## The next call -/

/-- What the next call does, when some of those before may have been refused. -/
structure Retries (p : Pipeline) (w₀ : World) (s : Handout) : Prop where
  index : s.wiring.index = s.got.length
  /-- Apart from the first stage only the last one is ever refused, unless the system has no
  pipe for another one. -/
  refused : ∀ i, s.Refused (i + 1) → s.Faulty p (i + 1)
  /-- A refusal gives up what is kept for the stage and does nothing else.  Nothing is
  kept for the first stage, and for one that has been refused before. -/
  refuses : ∀ e wiring w, s.wiring.next s.world = (.error e, wiring, w) →
    wiring = { s.wiring with carried := none } ∧
      w.table = (s.wiring.release s.world).table ∧
      (wiring = s.wiring ↔ s.got.length = 0 ∨ s.Refused s.got.length)
  /-- Where a refusal has taken nothing, a stage obtains what it would have obtained. -/
  obtains : ∀ ends wiring w, s.wiring.next s.world = (.ok (some ends), wiring, w) →
    s.got.length = 0 ∨ ¬ s.Refused s.got.length →
      Call.Obtains ⟨s.wiring, s.world, .ok (some ends), w⟩ p s.got.length ends
  /-- Its input is the read end of the pipe that the stage before writes into. -/
  linked : ∀ ends wiring w i, s.wiring.next s.world = (.ok (some ends), wiring, w) →
    s.got.length = i + 1 → ¬ s.Refused (i + 1) → ∃ a fd, s.got[i]? = some a ∧
      a.stray = some fd ∧ ends.input = .descriptor fd ∧
      s.world.machine.fileAt? s.world.table fd =
        some (.pipe (w₀.machine.pipes.size + i) .reader) ∧
      ∀ writer, s.number? (.output i) = some writer →
        s.world.machine.fileAt? s.world.table writer =
          some (.pipe (w₀.machine.pipes.size + i) .writer)
  /-- Where the read end has been lost, the input is that of a first stage. -/
  lost : ∀ ends wiring w i, s.wiring.next s.world = (.ok (some ends), wiring, w) →
    s.got.length = i + 1 → s.Refused (i + 1) → ∃ w₁,
      Endpoint.Opened p.input .read s.world ends.input w₁ ∧
      if i + 2 = p.stages.size then
        ends.stray = none ∧ Endpoint.Opened p.output (.write 0o644) w₁ ends.output w
      else ∃ reader writer, w₁.pipe = .ok (reader, writer, w) ∧
        ends.output = .descriptor writer ∧ ends.stray = some reader

namespace Tried

variable {p : Pipeline} {w₀ : World} {s : Handout} {wiring : Wiring} {w w₁ : World}
  {ends : StageEnds} {input : Endpoint} {i : Nat}

theorem opened_of_nextInput (h : Tried p s) (hk : s.got.length < p.stages.size)
    (hnone : s.got.length = 0 ∨ s.Refused s.got.length)
    (hinput : s.wiring.nextInput s.world = .ok (input, w₁)) :
    Endpoint.Opened p.input .read s.world input w₁ := by
  rw [h.wiring, (h.kept hk).2 hnone] at hinput
  have hinput : Wiring.openEnd p.input .reading s.world = .ok (input, w₁) := hinput
  exact Wiring.opened_of_openEnd hinput

theorem kept_of_nextInput (h : Tried p s) (hk : s.got.length < p.stages.size)
    (hsome : ¬ (s.got.length = 0 ∨ s.Refused s.got.length))
    (hinput : s.wiring.nextInput s.world = .ok (input, w₁)) :
    w₁ = s.world ∧ ∃ fd, s.wiring.carried = some fd ∧ input = .descriptor fd := by
  obtain ⟨fd, hfd⟩ := Option.ne_none_iff_exists'.1 (mt (h.kept hk).1 hsome)
  rw [Wiring.nextInput, hfd] at hinput
  cases hinput
  exact ⟨rfl, fd, hfd, rfl⟩

theorem obtains (h : Tried p s)
    (hnext : s.wiring.next s.world = (.ok (some ends), wiring, w))
    (hkept : s.got.length = 0 ∨ ¬ s.Refused s.got.length) :
    Call.Obtains ⟨s.wiring, s.world, .ok (some ends), w⟩ p s.got.length ends := by
  obtain ⟨hindex, hsupplies⟩ := Wiring.supplies_of_next hnext
  have hk := h.lt_size hindex
  obtain ⟨w₁, hinput, houtput⟩ := hsupplies.opens
  rw [h.index, h.count, h.wiring] at houtput
  refine ⟨rfl, w₁, ?_, houtput⟩
  by_cases hfirst : s.got.length = 0
  · rw [if_pos hfirst]
    exact h.opened_of_nextInput hk (.inl hfirst) hinput
  · rw [if_neg hfirst]
    exact (h.kept_of_nextInput hk (not_or.2 ⟨hfirst, hkept.resolve_left hfirst⟩) hinput).1

theorem linked (h : Tried p s) (hlive : s.Live p w₀)
    (hnext : s.wiring.next s.world = (.ok (some ends), wiring, w)) (hi : s.got.length = i + 1)
    (hkept : ¬ s.Refused (i + 1)) :
    ∃ a fd, s.got[i]? = some a ∧ a.stray = some fd ∧ ends.input = .descriptor fd ∧
      s.world.machine.fileAt? s.world.table fd =
        some (.pipe (w₀.machine.pipes.size + i) .reader) ∧
      ∀ writer, s.number? (.output i) = some writer →
        s.world.machine.fileAt? s.world.table writer =
          some (.pipe (w₀.machine.pipes.size + i) .writer) := by
  obtain ⟨hindex, hsupplies⟩ := Wiring.supplies_of_next hnext
  have hk := h.lt_size hindex
  obtain ⟨w₁, hinput, -⟩ := hsupplies.opens
  obtain ⟨-, fd, hcarried, hends⟩ := h.kept_of_nextInput hk (by simp [hi, hkept]) hinput
  obtain ⟨j, a, hj, ha, hstray, hreader⟩ := hlive.kept fd hcarried
  obtain rfl : i = j := Nat.succ.inj (hi.symm.trans hj)
  exact ⟨a, fd, ha, hstray, hends, hreader,
    fun writer hwriter ↦ hlive.feeds i writer (hi ▸ hk) hwriter⟩

theorem lost (h : Tried p s)
    (hnext : s.wiring.next s.world = (.ok (some ends), wiring, w)) (hi : s.got.length = i + 1)
    (hrefused : s.Refused (i + 1)) :
    ∃ w₁, Endpoint.Opened p.input .read s.world ends.input w₁ ∧
      if i + 2 = p.stages.size then
        ends.stray = none ∧ Endpoint.Opened p.output (.write 0o644) w₁ ends.output w
      else ∃ reader writer, w₁.pipe = .ok (reader, writer, w) ∧
        ends.output = .descriptor writer ∧ ends.stray = some reader := by
  obtain ⟨hindex, hsupplies⟩ := Wiring.supplies_of_next hnext
  obtain ⟨w₁, hinput, houtput⟩ := hsupplies.opens
  have hopened := h.opened_of_nextInput (h.lt_size hindex) (.inr (hi ▸ hrefused)) hinput
  rw [h.index, h.count, hi, h.wiring] at houtput
  exact ⟨w₁, hopened, houtput⟩

end Tried

/-- A refused call leaves the wiring as it was if it is about the first stage or about one
that has been refused before, and only then; it loses the read end that any other stage was
to get.  Whatever has been refused, those are the stages whose input is not the pipe of the
stage before. -/
theorem refused_call_keeps_wiring_iff (p : Pipeline) (w : World) (moves : List Move) :
    Retries p w ((Handout.begin p w).run moves) := by
  obtain ⟨h, hlive⟩ := tried_run p w moves
  refine ⟨h.index, h.faulty, fun e wiring w' hnext ↦ ?_, fun _ _ _ ↦ h.obtains,
    fun _ _ _ _ ↦ h.linked hlive, fun _ _ _ _ ↦ h.lost⟩
  obtain ⟨hindex, hrefuses⟩ := Wiring.refuses_of_next hnext
  refine ⟨hrefuses.wiring_eq, hrefuses.table_eq, ?_⟩
  rw [hrefuses.wiring_eq, ← h.kept (h.lt_size hindex)]
  exact ⟨fun heq ↦ (congrArg Wiring.carried heq).symm, fun hnone ↦ by rw [← hnone]⟩

/-- The output file of two stages is a directory, and the second stage is refused. -/
theorem refused_call_keeps_wiring_iff_directory :
    let w : World :=
      ⟨⟨⟨#[.directory [("out", 1)] 0 0o777, .directory [] 0 0o777]⟩,
        #[.node 1 .read 0 false, .node 1 .write 0 true, .node 1 .write 0 true], #[], #[], 0⟩,
        ⟨[(0, ⟨0, false⟩), (1, ⟨1, false⟩), (2, ⟨2, false⟩)]⟩, Tree.root, [], #[], [], .none⟩
    let p : Pipeline := ⟨.ofList [.ofProgram "a", .ofProgram "b"], none, some "out"⟩
    let s := (Handout.begin p w).run [.next, .next]
    s.Refused 1 ∧ Retries p w s := by
  intro w p s
  let before := (Handout.begin p w).run [.next]
  have hindex : before.wiring.index = 1 := by cbv
  have hanswer : (before.wiring.next before.world).1 =
      .error (.openFile "out" .writing (.refused .isDirectory)) := by cbv
  have hrefused : before.call.Refused 1 :=
    (Handout.refused_call_iff rfl).2 (.inr ⟨hindex, _, hanswer⟩)
  exact ⟨hrefused, refused_call_keeps_wiring_iff p w [.next, .next]⟩

/-- When the directory has given way to a file, the second stage has the standard input
and not the pipe that the first one writes into. -/
theorem not_refused_call_keeps_wiring :
    let w : World :=
      ⟨⟨⟨#[.directory [("out", 1)] 0 0o777, .directory [] 0 0o777]⟩,
        #[.node 1 .read 0 false, .node 1 .write 0 true, .node 1 .write 0 true], #[], #[], 0⟩,
        ⟨[(0, ⟨0, false⟩), (1, ⟨1, false⟩), (2, ⟨2, false⟩)]⟩, Tree.root, [], #[], [], .none⟩
    let p : Pipeline := ⟨.ofList [.ofProgram "a", .ofProgram "b"], none, some "out"⟩
    let s := (Handout.begin p w).run [.next]
    let s' := s.run [.next, .alter ⟨#[.directory [("out", 1)] 0 0o777, .file [] 0o644]⟩]
    (s.wiring.next s.world).1 = .error (.openFile "out" .writing (.refused .isDirectory)) ∧
      (s.wiring.next s.world).2.1 ≠ s.wiring ∧
      s'.got.length = 1 ∧
      (s'.wiring.next s'.world).1 = .ok (some ⟨.inherited, .descriptor 3, none⟩) := by
  intro w p s s'
  have hkept : s.wiring.carried = some 3 := by cbv
  have hlost : (s.wiring.next s.world).2.1.carried = none := by cbv
  refine ⟨by cbv, fun heq ↦ ?_, by cbv, by cbv⟩
  rw [heq, hkept] at hlost
  cases hlost

end PipeShell

import Mathlib
import PipeShell.Proofs.ReaderRoom
import PipeShell.Session

/-!
# A reader keeps nothing of what it has read

The room for the stages of a pipeline is used again from line to line: it is filled while
a line is read, goes out with a pipeline, and may be exchanged for the room of any
pipeline given back.  Between two readings it is empty whatever has happened before, so
the next line comes to what it comes to for a new reader.
-/

namespace PipeShell

universe u v

theorem Pipeline.fitted_eq_iff {p q : Pipeline} :
    p.fitted = q.fitted ↔
      p.stages.toList = q.stages.toList ∧ p.input = q.input ∧ p.output = q.output := by
  obtain ⟨⟨⟨stages⟩, capacity, hsize⟩, input, output⟩ := p
  obtain ⟨⟨⟨stages'⟩, capacity', hsize'⟩, input', output'⟩ := q
  constructor
  · intro h
    cases h
    exact ⟨rfl, rfl, rfl⟩
  · rintro ⟨hstages, hinput, houtput⟩
    obtain rfl : stages = stages' := hstages
    obtain rfl : input = input' := hinput
    obtain rfl : output = output' := houtput
    rfl

/-- The outcome with no room to spare. -/
def Outcome.fitted : Outcome → Outcome
  | .run p => .run p.fitted
  | o => o

theorem Outcome.exists_of_fitted_eq_run {o : Outcome} {q : Pipeline}
    (h : o.fitted = (Outcome.run q).fitted) : ∃ p, o = .run p ∧ p.fitted = q.fitted := by
  cases o with
  | run p => exact ⟨p, rfl, Outcome.run.inj h⟩
  | _ => cases h

theorem Command.settle_congr {c c' : Command} (h : c.fitted = c'.fitted) (w : World) :
    (c.settle w).1.fitted = (c'.settle w).1.fitted ∧ (c.settle w).2 = (c'.settle w).2 := by
  rcases Command.cases_of_fitted_eq h with rfl | ⟨p, p', rfl, rfl, hp⟩
  · exact ⟨rfl, rfl⟩
  · exact ⟨congrArg Outcome.run hp, rfl⟩

namespace CommandReader

/-- The readers that a new one becomes by reading lines, from any sources and with any
outcomes, and by taking back any pipelines. -/
inductive Used : CommandReader → Prop where
  | new : Used .new
  | read {r : CommandReader} (h : Used r) {τ : Type u} [SymbolSource τ] (s : τ) :
      Used (r.read s).2.1
  | recycle {r : CommandReader} (h : Used r) (p : Pipeline) : Used (r.recycle p)

theorem toList_buffer_read {τ : Type u} [SymbolSource τ] (r : CommandReader) (s : τ) :
    (r.read s).2.1.buffer.toList = [] := by
  rw [read_reader, LineState.close]
  split
  · exact Growable.toList_empty
  · exact Growable.toList_clear _

theorem toList_buffer_recycle {r : CommandReader} (h : r.buffer.toList = []) (p : Pipeline) :
    (r.recycle p).buffer.toList = [] := by
  unfold recycle
  split
  · exact Growable.toList_clear _
  · exact h

theorem Used.toList_buffer {r : CommandReader} (h : Used r) : r.buffer.toList = [] := by
  induction h with
  | new => exact Growable.toList_empty
  | read h s ih => exact toList_buffer_read _ s
  | recycle h p ih => exact toList_buffer_recycle ih p

theorem fitted_read {τ : Type u} [SymbolSource τ] (r r' : CommandReader) (s : τ) :
    (r.read s).1.fitted = (r'.read s).1.fitted := by
  rw [read_command, read_command]
  exact Command.fitted_ofTokens r.buffer r'.buffer _ _

/-- Whatever a reader has read and taken back, its room is empty, and it makes of the next
line what a new reader makes of it, in the same world and up to the room of a pipeline. -/
theorem used_reads_as_new {r : CommandReader} (h : Used.{u} r) :
    r.buffer.toList = [] ∧
      ∀ {τ : Type v} [SymbolSource τ] (s : τ) (w : World),
        ((r.read s).1.settle w).1.fitted = ((new.read s).1.settle w).1.fitted ∧
          ((r.read s).1.settle w).2 = ((new.read s).1.settle w).2 ∧
          (r.read s).2.2 = (new.read s).2.2 := by
  refine ⟨h.toList_buffer, ?_⟩
  intro τ _ s w
  obtain ⟨houtcome, hworld⟩ := Command.settle_congr (fitted_read r new s) w
  have hrest : (r.read s).2.2 = (new.read s).2.2 := by
    rw [read_rest, read_rest]
  exact ⟨houtcome, hworld, hrest⟩

/-- A line is turned down when two of its stages have been closed, and then five stages
of another reader are given back; the next line is still the only stage of its pipeline. -/
theorem used_reads_as_new_after_refused :
    let refused := Symbol.ofLine [.word "a", .pipe, .word "b", .pipe, .word "c", .readFrom]
    let other : Pipeline := ⟨.ofList (List.replicate 5 (.ofProgram "x")), some "in", none⟩
    let r := (new.read refused).2.1.recycle other
    let w : World := ⟨⟨⟨#[]⟩, #[], #[], #[], 0⟩, ⟨[]⟩, 0, [], #[], [], .none⟩
    Used.{0} r ∧ r.buffer.capacity = 8 ∧ r.buffer.toList = [] ∧
      ∃ p : Pipeline, ((r.read (Symbol.ofLine [.word "d"])).1.settle w).1 = .run p ∧
        p.stages.toList = [.ofProgram "d"] ∧ p.input = none ∧ p.output = none := by
  intro refused other r w
  have hused : Used r := .recycle (.read .new refused) other
  obtain ⟨hempty, hnext⟩ := used_reads_as_new hused
  obtain ⟨houtcome, -⟩ := hnext (Symbol.ofLine [.word "d"]) w
  have hfresh : ((new.read (Symbol.ofLine [.word "d"])).1.settle w).1 =
      .run ⟨.ofList [.ofProgram "d"], none, none⟩ := by cbv
  have hcapacity : r.buffer.capacity = 8 := by
    change ((new.read refused).2.1.recycle other).buffer.capacity = 8
    cbv
  rw [hfresh] at houtcome
  obtain ⟨p, hrun, hp⟩ := Outcome.exists_of_fitted_eq_run houtcome
  exact ⟨hused, hcapacity, hempty, p, hrun, Pipeline.fitted_eq_iff.1 hp⟩

end CommandReader

end PipeShell

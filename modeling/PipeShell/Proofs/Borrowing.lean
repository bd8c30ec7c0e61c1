import PipeShell.Proofs.Requests
import PipeShell.Proofs.TableSlots

/-!
# Descriptors on loan

While it runs a pipeline the shell holds some descriptors more than before.  They
have numbers that were free, so giving them all up again leaves the table that it
started from.  The requests that the shell makes meanwhile tell the same: replayed,
they open nothing that is open and close nothing that is not, and what they leave
open is what the shell holds.
-/

namespace PipeShell

/-- A table that holds some entries more than another one, under numbers that were
free. -/
structure Table.Lends (t₀ : Table) (held : List (Descriptor × Holding)) (t : Table) : Prop where
  eq : t = ⟨held ++ t₀.holdings⟩
  fresh : ∀ entry ∈ held, t₀.get? entry.1 = none
  nodup : (held.map Prod.fst).Nodup

namespace Table.Lends

variable {t₀ t : Table} {held : List (Descriptor × Holding)}

theorem refl (t : Table) : t.Lends [] t :=
  ⟨rfl, nofun, List.nodup_nil⟩

/-- What has been put under the least free number is on loan as well. -/
theorem add (h : t₀.Lends held t) (x : Holding) :
    t₀.Lends (((t.add x).1, x) :: held) (t.add x).2 := by
  have hfree := get?_free t 0
  have hnone := get?_eq_none_iff.1 hfree
  have hholdings : t.holdings = held ++ t₀.holdings := congrArg holdings h.eq
  refine ⟨?_, fun entry hentry ↦ ?_, ?_⟩
  · rw [Table.add, set_of_get?_eq_none hfree, hholdings]
    rfl
  · rcases List.mem_cons.1 hentry with rfl | hentry
    · refine get?_eq_none_iff.2 fun entry hentry ↦ hnone entry ?_
      rw [hholdings]
      exact List.mem_append_right _ hentry
    · exact h.fresh entry hentry
  · refine List.nodup_cons.2 ⟨fun hmem ↦ ?_, h.nodup⟩
    obtain ⟨entry, hentry, hnumber⟩ := List.mem_map.1 hmem
    refine hnone entry ?_ hnumber
    rw [hholdings]
    exact List.mem_append_left _ hentry

theorem get? (h : t₀.Lends held t) {entry : Descriptor × Holding} (hentry : entry ∈ held) :
    t.get? entry.1 = some entry.2 := by
  obtain ⟨rfl, hfresh, hnodup⟩ := h
  induction held with
  | nil => cases hentry
  | cons other rest ih =>
      obtain ⟨hother, hrest⟩ := List.nodup_cons.1 hnodup
      rw [List.cons_append, get?_cons]
      rcases List.mem_cons.1 hentry with rfl | hentry
      · rw [if_pos rfl]
      · have hne : other.1 ≠ entry.1 := fun heq ↦
          hother (List.mem_map.2 ⟨entry, hentry, heq.symm⟩)
        rw [if_neg hne]
        exact ih hentry (fun e he ↦ hfresh e (List.mem_cons_of_mem _ he)) hrest

theorem erase (h : t₀.Lends held t) {fd : Descriptor} (hfd : fd ∈ held.map Prod.fst) :
    t₀.Lends (held.filter (·.1 != fd)) (t.erase fd) := by
  obtain ⟨entry, hentry, rfl⟩ := List.mem_map.1 hfd
  refine ⟨?_, fun e he ↦ h.fresh e (List.mem_filter.1 he).1,
    h.nodup.sublist (List.filter_sublist.map _)⟩
  have hrest := erase_of_get?_eq_none (h.fresh entry hentry)
  rw [Table.erase, Table.mk.injEq] at hrest
  rw [h.eq, Table.erase, List.filter_append, hrest]

end Table.Lends

/-- Replays a request on the descriptors opened so far.  It fails if what is opened is
open already or what is closed is not, and where a process is waited for. -/
def Event.replay (held : List Descriptor) : Event → Option (List Descriptor)
  | .opened fd => if fd ∈ held then none else some (fd :: held)
  | .piped reader writer =>
      if reader ∈ held ∨ writer ∈ held ∨ reader = writer then none
      else some (writer :: reader :: held)
  | .closed fd => if fd ∈ held then some (held.erase fd) else none
  | .started _ => some held
  | .moved _ => some held
  | .awaited _ => none

/-- Requests that have been made since, and what they leave open. -/
def Event.Replays (before : Array Event) (held : List Descriptor) (after : Array Event) : Prop :=
  ∃ requests : List Event, after = before ++ requests.toArray ∧
    requests.foldlM Event.replay [] = some held

theorem Event.Replays.refl (events : Array Event) : Event.Replays events [] events :=
  ⟨[], by simp, rfl⟩

theorem Event.Replays.push {before after : Array Event} {held held' : List Descriptor}
    (h : Event.Replays before held after) {e : Event} (he : e.replay held = some held') :
    Event.Replays before held' (after.push e) := by
  obtain ⟨requests, rfl, hreplay⟩ := h
  refine ⟨requests ++ [e], by simp, ?_⟩
  rw [List.foldlM_append, hreplay]
  simpa using he

namespace World

/-- A world of the shell in which it holds some descriptors more than before. -/
structure Borrows (w₀ : World) (held : List (Descriptor × Holding)) (w : World) : Prop where
  lends : w₀.table.Lends held w.table
  replays : Event.Replays w₀.events (held.map Prod.fst) w.events

namespace Borrows

variable {w₀ w w' : World} {held : List (Descriptor × Holding)}

theorem refl (w : World) : w.Borrows [] w :=
  ⟨.refl _, .refl _⟩

theorem openFile (h : w₀.Borrows held w) {path : String} {mode : OpenMode} {fd : Descriptor}
    (hopen : w.openFile path mode = .ok (fd, w')) :
    ∃ file, w.machine.openFile w.table 0 w.cwd path mode = .ok (file, w'.machine) ∧
      w₀.Borrows ((fd, ⟨file, true⟩) :: held) w' := by
  obtain ⟨file, machine, hmachine, rfl, rfl⟩ := openFile_eq_ok hopen
  have hlends := h.lends.add ⟨file, true⟩
  refine ⟨file, hmachine, hlends, h.replays.push ?_⟩
  exact if_neg (List.nodup_cons.1 hlends.nodup).1

theorem pipe (h : w₀.Borrows held w) :
    w₀.Borrows ((w.makePipe.2.1, ⟨w.machine.opened.size + 1, true⟩) ::
      (w.makePipe.1, ⟨w.machine.opened.size, true⟩) :: held) w.makePipe.2.2 := by
  have hreader := h.lends.add ⟨w.machine.opened.size, true⟩
  have hwriter := hreader.add ⟨w.machine.opened.size + 1, true⟩
  refine ⟨hwriter, h.replays.push ?_⟩
  obtain ⟨hwriter_notMem, hnodup⟩ := List.nodup_cons.1 hwriter.nodup
  obtain ⟨hreader_notMem, -⟩ := List.nodup_cons.1 hnodup
  obtain ⟨hne, hwriter_notMem⟩ := not_or.1 (mt List.mem_cons.2 hwriter_notMem)
  exact if_neg (not_or.2 ⟨hreader_notMem, not_or.2 ⟨hwriter_notMem, Ne.symm hne⟩⟩)

theorem close (h : w₀.Borrows held w) {fd : Descriptor} (hfd : fd ∈ held.map Prod.fst) :
    w₀.Borrows (held.filter (·.1 != fd)) (w.close fd) := by
  obtain ⟨entry, hentry, rfl⟩ := List.mem_map.1 hfd
  have hclose : w.table.close entry.1 = .ok (w.table.erase entry.1) := by
    rw [Table.close, h.lends.get? hentry]
    rfl
  unfold World.close
  rw [hclose]
  refine ⟨h.lends.erase hfd, h.replays.push ?_⟩
  rw [Event.replay, if_pos hfd, h.lends.nodup.erase_eq_filter, List.filter_map]
  rfl

theorem start (h : w₀.Borrows held w) {rewire : Table → Except Errno Table} {q : Process}
    (hstarts : Starts w rewire q w') : w₀.Borrows held w' := by
  refine ⟨?_, ?_⟩
  · rw [hstarts.table]
    exact h.lends
  · rw [hstarts.events]
    exact h.replays.push rfl

end Borrows

end World

end PipeShell

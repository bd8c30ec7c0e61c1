import PipeShell.System.Program

/-!
# Descriptor tables

A process holds its open files under numbers.  A table maps each number in use
to an open file and says whether the number is given up when the process goes
on as another program.  New files get the least number that is free, and a
duplicate is never given up.
-/

namespace PipeShell

/-- The number of an open file, shared by all processes that hold it. -/
abbrev FileId := Nat

/-- What a descriptor stands for. -/
structure Holding where
  file : FileId
  closeOnExec : Bool
  deriving DecidableEq, Repr

/-- The descriptors of a process. -/
structure Table where
  holdings : List (Descriptor × Holding)
  deriving DecidableEq, Repr

namespace Table

/-- The table of a process that holds nothing. -/
def empty : Table :=
  ⟨[]⟩

/-- What a descriptor stands for, if it is open. -/
def get? (t : Table) (fd : Descriptor) : Option Holding :=
  t.holdings.lookup fd

/-- Gives a descriptor up. -/
def erase (t : Table) (fd : Descriptor) : Table :=
  ⟨t.holdings.filter (·.1 != fd)⟩

/-- Makes a descriptor stand for an open file, whatever it stood for before. -/
def set (t : Table) (fd : Descriptor) (h : Holding) : Table :=
  ⟨(fd, h) :: (t.erase fd).holdings⟩

/-- A number above all that are in use. -/
def bound (t : Table) : Descriptor :=
  t.holdings.foldr (fun entry n ↦ max (entry.1 + 1) n) 0

/-- The least number, from `least` on, that is not in use. -/
def free (t : Table) (least : Descriptor) : Descriptor :=
  ((List.range' least t.holdings.length).find? fun fd ↦ (t.get? fd).isNone).getD
    (max least t.bound)

/-- Puts an open file under the least free number. -/
def add (t : Table) (h : Holding) : Descriptor × Table :=
  (t.free 0, t.set (t.free 0) h)

/-- Makes `target` stand for what `fd` stands for, and keeps it for the next
program. -/
def duplicate (t : Table) (fd target : Descriptor) : Except Errno Table :=
  match t.get? fd with
  | some h => .ok (t.set target ⟨h.file, false⟩)
  | none => .error .badDescriptor

/-- Puts what `fd` stands for under the first free number from `least`, to be
given up when the process goes on as another program. -/
def keep (t : Table) (fd least : Descriptor) : Except Errno (Descriptor × Table) :=
  match t.get? fd with
  | some h => .ok (t.free least, t.set (t.free least) ⟨h.file, true⟩)
  | none => .error .badDescriptor

/-- Gives a descriptor up that must be open. -/
def close (t : Table) (fd : Descriptor) : Except Errno Table :=
  if (t.get? fd).isSome then .ok (t.erase fd) else .error .badDescriptor

/-- The table that the next program of the process starts with. -/
def afterExec (t : Table) : Table :=
  ⟨t.holdings.filter fun entry ↦ !entry.2.closeOnExec⟩

/-- Whether an open file is held under some number. -/
def holds (t : Table) (p : FileId → Bool) : Bool :=
  t.holdings.any fun entry ↦ p entry.2.file

end Table

end PipeShell

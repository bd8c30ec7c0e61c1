/-!
# Arrays that double

`Growable α` is a list of values together with the room set aside for them.
Room is only ever added when a value is pushed onto a full array, which
doubles it; clearing keeps the room and copying takes no more than is needed.
Two arrays are the same value when their items are, whatever their room.
-/

namespace PipeShell

/-- Values in order, with room for at least as many. -/
structure Growable (α : Type u) where
  items : Array α
  capacity : Nat
  size_le : items.size ≤ capacity

namespace Growable

variable {α : Type u}

/-- The array of no values, with room for one. -/
def empty : Growable α :=
  ⟨#[], 1, by simp⟩

instance : Inhabited (Growable α) := ⟨empty⟩

/-- The number of values held. -/
def size (g : Growable α) : Nat :=
  g.items.size

/-- The values, first to last. -/
def toList (g : Growable α) : List α :=
  g.items.toList

def isEmpty (g : Growable α) : Bool :=
  g.items.isEmpty

/-- The room after one more push: a full array doubles, or starts with room
for one. -/
def grown (g : Growable α) : Nat :=
  if g.size = g.capacity then g.capacity + max g.capacity 1 else g.capacity

theorem size_lt_grown (g : Growable α) : g.size < g.grown := by
  have h : g.size ≤ g.capacity := g.size_le
  unfold grown
  split <;> omega

/-- Adds a value at the end. -/
def push (g : Growable α) (a : α) : Growable α :=
  ⟨g.items.push a, g.grown, by
    rw [Array.size_push]
    exact g.size_lt_grown⟩

/-- Lets the values go and keeps the room. -/
def clear (g : Growable α) : Growable α :=
  ⟨#[], g.capacity, by simp⟩

/-- A second array with the same values and no room to spare. -/
def copy (g : Growable α) : Growable α :=
  ⟨g.items, g.items.size, Nat.le_refl _⟩

/-- Pushes all values of a list, in order. -/
def pushAll (g : Growable α) (values : List α) : Growable α :=
  values.foldl push g

/-- The array got by pushing the values of a list onto the empty one. -/
def ofList (values : List α) : Growable α :=
  empty.pushAll values

/-- An index at or behind the end of an array. -/
structure OutOfRange where
  size : Nat
  index : Nat

def OutOfRange.message (e : OutOfRange) : String :=
  s!"index out of bounds: the len is {e.size} but the index is {e.index}"

/-- The value at an index. -/
def get (g : Growable α) (index : Nat) : Except OutOfRange α :=
  match g.items[index]? with
  | some a => .ok a
  | none => .error ⟨g.size, index⟩

/-- Room plays no part in equality. -/
instance [BEq α] : BEq (Growable α) where
  beq g h := g.items == h.items

@[simp] theorem toList_empty : (empty : Growable α).toList = [] := rfl

@[simp] theorem toList_push (g : Growable α) (a : α) :
    (g.push a).toList = g.toList ++ [a] := by
  simp [toList, push]

@[simp] theorem toList_clear (g : Growable α) : g.clear.toList = [] := rfl

@[simp] theorem toList_copy (g : Growable α) : g.copy.toList = g.toList := rfl

@[simp] theorem length_toList (g : Growable α) : g.toList.length = g.size := by
  simp [toList, size]

end Growable

end PipeShell

import PipeShell.System.Program

/-!
# The tree of files

Nodes are numbered and never renumbered: a directory maps names to numbers, and
a node lives on as long as something refers to its number, so a directory that
has been removed can still be the current one.  Node 0 is the root.

`Tree.resolve` finds what a path names.  Symbolic links are followed, at most
forty of them, and a slash at the end of a path asks for a directory.  All
processes have the same rights: what a node's permissions grant its owner.
-/

namespace PipeShell

/-- The number of a node. -/
abbrev NodeId := Nat

/-- Files that are not on any disk. -/
inductive Device where
  /-- Holds nothing and takes everything. -/
  | null
  /-- Holds zeros without end and takes everything. -/
  | zero
  /-- Holds zeros without end and has no room. -/
  | full
  /-- What the process that asks has under this number. -/
  | stream (fd : Descriptor)
  deriving DecidableEq, Repr

/-- What a path can lead to. -/
inductive Node where
  | file (data : Bytes) (permissions : Nat)
  | directory (entries : List (String × NodeId)) (parent : NodeId) (permissions : Nat)
  /-- A symbolic link. -/
  | link (target : String)
  /-- A file whose content is a program, given its arguments and variables. -/
  | program (main : List String → Environment → Program)
  | device (d : Device)

instance : Inhabited Node := ⟨.device .null⟩

/-- What a process may do with a node. -/
inductive Right where
  | read
  | write
  /-- Running a file or going through a directory. -/
  | enter
  deriving DecidableEq, Repr

/-- The permission that grants a right to a node's owner. -/
def Right.bit : Right → Nat
  | .read => 0o400
  | .write => 0o200
  | .enter => 0o100

/-- The permissions of a node. -/
def Node.permissions : Node → Nat
  | .file _ permissions => permissions
  | .directory _ _ permissions => permissions
  | .link _ => 0o777
  | .program _ => 0o555
  | .device _ => 0o666

/-- Whether a node's permissions grant a right. -/
def Node.grants (n : Node) (r : Right) : Bool :=
  n.permissions &&& r.bit != 0

/-- Numbered nodes. -/
structure Tree where
  nodes : Array Node

namespace Tree

/-- The number of the root. -/
def root : NodeId := 0

/-- A root directory without entries. -/
def empty : Tree :=
  ⟨#[.directory [] root 0o555]⟩

def node? (t : Tree) (id : NodeId) : Option Node :=
  t.nodes[id]?

def setNode (t : Tree) (id : NodeId) (n : Node) : Tree :=
  ⟨t.nodes.setIfInBounds id n⟩

/-- Adds a node and gives it the next number. -/
def addNode (t : Tree) (n : Node) : NodeId × Tree :=
  (t.nodes.size, ⟨t.nodes.push n⟩)

/-- Whether a right to a node is granted. -/
def grants (t : Tree) (id : NodeId) (r : Right) : Bool :=
  (t.node? id).any (·.grants r)

/-- The longest name an entry can have, in bytes. -/
def nameLimit : Nat := 255

/-- The first length, in bytes, that is too long for a path. -/
def pathLimit : Nat := 4096

/-- The number of symbolic links that may be followed for one path. -/
def linkLimit : Nat := 40

/-- The names on a path, in order. -/
def names (path : String) : List String :=
  (path.splitOn "/").filter (· ≠ "")

/-- The steps of a path: its names and, for a slash at the end, the step that
only a directory allows. -/
def steps (path : String) : List String :=
  if path.endsWith "/" then names path ++ ["."] else names path

/-- Where a path starts from. -/
def base (cwd : NodeId) (path : String) : NodeId :=
  if path.startsWith "/" then root else cwd

/-- What a name stands for in a directory with the given entries. -/
def find (entries : List (String × NodeId)) (name : String) : Except Errno (Option NodeId) :=
  if name.utf8ByteSize > nameLimit then .error .nameTooLong else .ok (entries.lookup name)

/-- Goes along the steps of a path.  The last one may be a symbolic link that
is not followed. -/
def walk (t : Tree) (follow : Bool) (links : Nat) (here : NodeId) (path : List String) :
    Except Errno NodeId :=
  match path with
  | [] => .ok here
  | name :: rest =>
      match t.node? here with
      | some (.directory entries parent _) =>
          if !t.grants here .enter then .error .accessDenied
          else if name = "." then t.walk follow links here rest
          else if name = ".." then t.walk follow links parent rest
          else
            match find entries name with
            | .error e => .error e
            | .ok none => .error .noEntry
            | .ok (some id) =>
                match t.node? id with
                | some (.link target) =>
                    if rest.isEmpty && !follow then .ok id
                    else
                      match links with
                      | 0 => .error .linkLoop
                      | left + 1 => t.walk follow left (base here target) (steps target ++ rest)
                | _ => t.walk follow links id rest
      | _ => .error .notDirectory
termination_by (links, path.length)

/-- Whether a path can be asked about at all. -/
def checkPath (path : String) : Except Errno Unit :=
  if path = "" then .error .noEntry
  else if path.utf8ByteSize ≥ pathLimit then .error .nameTooLong
  else .ok ()

/-- The node that a path names; a symbolic link at its end is followed or
not. -/
def locate (t : Tree) (follow : Bool) (cwd : NodeId) (path : String) : Except Errno NodeId := do
  checkPath path
  t.walk follow linkLimit (base cwd path) (steps path)

/-- The node that a path names. -/
def resolve (t : Tree) (cwd : NodeId) (path : String) : Except Errno NodeId :=
  t.locate true cwd path

/-- The directory that a path names and that may be entered. -/
def resolveDirectory (t : Tree) (cwd : NodeId) (path : String) : Except Errno NodeId := do
  let id ← t.resolve cwd path
  match t.node? id with
  | some (.directory _ _ _) => if t.grants id .enter then return id else throw .accessDenied
  | _ => throw .notDirectory

/-- Whether a directory is still in the tree. -/
def isLinked (t : Tree) (id : NodeId) : Bool :=
  id == root ||
    match t.node? id with
    | some (.directory _ parent _) =>
        match t.node? parent with
        | some (.directory entries _ _) => entries.any (·.2 == id)
        | _ => false
    | _ => false

/-- Where a name stands: its directory, the entries there, and the name. -/
structure Slot where
  directory : NodeId
  entries : List (String × NodeId)
  parent : NodeId
  permissions : Nat
  name : String

/-- The directory that a path's last name stands in.  There is none for the
root. -/
def slot? (t : Tree) (links : Nat) (start : NodeId) (path : String) :
    Except Errno (Option Slot) := do
  checkPath path
  let all := names path
  match all.getLast? with
  | none => return none
  | some name =>
      let directory ← t.walk true links (base start path) all.dropLast
      match t.node? directory with
      | some (.directory entries parent permissions) =>
          if !t.grants directory .enter then throw .accessDenied
          return some ⟨directory, entries, parent, permissions, name⟩
      | _ => throw .notDirectory

/-- Whether the name of a slot stands for a directory by itself. -/
def Slot.isDots (s : Slot) : Bool :=
  s.name == "." || s.name == ".."

/-- What stands in a slot. -/
def Slot.id? (s : Slot) : Except Errno (Option NodeId) :=
  find s.entries s.name

/-- The slot's directory with other entries. -/
def Slot.withEntries (s : Slot) (entries : List (String × NodeId)) : Node :=
  .directory entries s.parent s.permissions

/-- Whether entries may be added to the directory of a slot. -/
def mayAdd (t : Tree) (s : Slot) : Except Errno Unit :=
  if !t.isLinked s.directory then .error .noEntry
  else if t.grants s.directory .write then .ok ()
  else .error .accessDenied

/-- Whether entries may be taken out of the directory of a slot. -/
def mayTake (t : Tree) (s : Slot) : Except Errno Unit :=
  if t.grants s.directory .write then .ok () else .error .accessDenied

/-- Puts a node into a slot. -/
def enter (t : Tree) (s : Slot) (id : NodeId) : Tree :=
  t.setNode s.directory (s.withEntries (s.entries ++ [(s.name, id)]))

/-- Adds an entry for a new node. -/
def addEntry (t : Tree) (s : Slot) (n : Node) : Except Errno (NodeId × Tree) := do
  t.mayAdd s
  let (id, t) := t.addNode n
  return (id, t.enter s id)

/-- Takes an entry away. -/
def removeEntry (t : Tree) (s : Slot) : Tree :=
  t.setNode s.directory (s.withEntries (s.entries.filter (·.1 ≠ s.name)))

/-- What is where a path leads that is to be written to: a file, made if there is none,
or a symbolic link with its directory and its target.  Directories cannot be written
to, and a slash at the end of the path asks for one.  A file that has to be new is
refused if there is one already, or even a symbolic link. -/
def findOrMakeHere (t : Tree) (fresh : Bool) (permissions : Nat) (links : Nat)
    (start : NodeId) (path : String) :
    Except Errno ((NodeId × Tree) ⊕ (NodeId × String)) := do
  let some s ← t.slot? links start path | throw .isDirectory
  if s.isDots || path.endsWith "/" then throw .isDirectory
  match ← s.id? with
  | none => return .inl (← t.addEntry s (.file [] permissions))
  | some id =>
      if fresh then throw .alreadyExists
      match t.node? id with
      | some (.link target) => return .inr (s.directory, target)
      | some (.directory _ _ _) => throw .isDirectory
      | _ => if t.grants id .write then return .inl (id, t) else throw .accessDenied

/-- The file that a path names, made if there is none; symbolic links are followed. -/
def findOrMake (t : Tree) (fresh : Bool) (permissions : Nat) :
    Nat → NodeId → String → Except Errno (NodeId × Tree)
  | 0, start, path => do
      match ← t.findOrMakeHere fresh permissions 0 start path with
      | .inl found => return found
      | .inr _ => throw .linkLoop
  | left + 1, start, path => do
      match ← t.findOrMakeHere fresh permissions (left + 1) start path with
      | .inl found => return found
      | .inr (directory, target) => t.findOrMake fresh permissions left directory target

/-- An empty slot for something that is not a directory. -/
def freeSlot (t : Tree) (cwd : NodeId) (path : String) : Except Errno Slot := do
  let some s ← t.slot? linkLimit cwd path | throw .alreadyExists
  if s.isDots then throw .alreadyExists
  match ← s.id? with
  | some _ => throw .alreadyExists
  | none =>
      if path.endsWith "/" then throw .noEntry
      t.mayAdd s
      return s

/-- Makes a directory. -/
def makeDirectory (t : Tree) (permissions : Nat) (cwd : NodeId) (path : String) :
    Except Errno Tree := do
  let some s ← t.slot? linkLimit cwd path | throw .alreadyExists
  if s.isDots then throw .alreadyExists
  match ← s.id? with
  | some _ => throw .alreadyExists
  | none =>
      let (_, t) ← t.addEntry s (.directory [] s.directory permissions)
      return t

/-- Makes a symbolic link. -/
def makeLink (t : Tree) (cwd : NodeId) (target path : String) : Except Errno Tree := do
  if target = "" then throw .noEntry
  let s ← t.freeSlot cwd path
  let (_, t) ← t.addEntry s (.link target)
  return t

/-- Gives a file that is not a directory another name. -/
def link (t : Tree) (cwd : NodeId) (path name : String) : Except Errno Tree := do
  let id ← t.locate false cwd path
  let s ← t.freeSlot cwd name
  match t.node? id with
  | some (.directory _ _ _) => throw .notPermitted
  | _ => return t.enter s id

/-- Removes an empty directory. -/
def removeDirectory (t : Tree) (cwd : NodeId) (path : String) : Except Errno Tree := do
  let some s ← t.slot? linkLimit cwd path | throw .busy
  if s.name = "." then throw .invalid
  if s.name = ".." then throw .notEmpty
  match (← s.id?).bind t.node? with
  | none => throw .noEntry
  | some (.directory entries _ _) =>
      t.mayTake s
      if entries.isEmpty then return t.removeEntry s else throw .notEmpty
  | some _ => throw .notDirectory

/-- Removes a name that is not a directory's. -/
def removeFile (t : Tree) (cwd : NodeId) (path : String) : Except Errno Tree := do
  let some s ← t.slot? linkLimit cwd path | throw .isDirectory
  if s.isDots then throw .isDirectory
  match (← s.id?).bind t.node? with
  | none => throw .noEntry
  | some (.directory _ _ _) =>
      if path.endsWith "/" then throw .isDirectory
      t.mayTake s
      throw .isDirectory
  | some _ =>
      if path.endsWith "/" then throw .notDirectory
      t.mayTake s
      return t.removeEntry s

/-- Whether one directory is another or stands below it; `depth` bounds the
number of steps up. -/
def isWithin (t : Tree) (top : NodeId) (depth : Nat) (id : NodeId) : Bool :=
  id == top ||
    match depth, t.node? id with
    | depth + 1, some (.directory _ parent _) => parent != id && t.isWithin top depth parent
    | _, _ => false

/-- Moves what stands in one slot to another, in the place of what stands
there. -/
def move (t : Tree) (s target : Slot) (id : NodeId) : Tree :=
  let t := t.removeEntry s
  match t.node? target.directory with
  | some (.directory entries parent permissions) =>
      let entries := entries.filter (·.1 ≠ target.name) ++ [(target.name, id)]
      let t := t.setNode target.directory (.directory entries parent permissions)
      match t.node? id with
      | some (.directory entries _ permissions) =>
          t.setNode id (.directory entries target.directory permissions)
      | _ => t
  | _ => t

/-- Gives what a path names another path, in the place of what that one
names. -/
def rename (t : Tree) (cwd : NodeId) (path name : String) : Except Errno Tree := do
  let some s ← t.slot? linkLimit cwd path | throw .busy
  let some target ← t.slot? linkLimit cwd name | throw .busy
  if s.isDots || target.isDots then throw .busy
  let some id ← s.id? | throw .noEntry
  let old ← target.id?
  let isDirectory (id : NodeId) : Bool := (t.node? id) matches some (.directory _ _ _)
  if !isDirectory id then
    if path.endsWith "/" || (name.endsWith "/" && old.isNone) then throw .notDirectory
  if isDirectory id && t.isWithin id t.nodes.size target.directory then throw .invalid
  if old = some id then return t
  t.mayTake s
  match old with
  | none =>
      t.mayAdd target
      return t.move s target id
  | some old =>
      t.mayTake target
      match isDirectory id, t.node? old with
      | true, some (.directory entries _ _) =>
          if entries.isEmpty then return t.move s target id else throw .notEmpty
      | true, _ => throw .notDirectory
      | false, some (.directory _ _ _) => throw .isDirectory
      | false, _ =>
          if name.endsWith "/" then throw .notDirectory
          return t.move s target id

/-- Sets the permissions of what a path names. -/
def setPermissions (t : Tree) (cwd : NodeId) (path : String) (permissions : Nat) :
    Except Errno Tree := do
  let id ← t.resolve cwd path
  match t.node? id with
  | some (.file data _) => return t.setNode id (.file data permissions)
  | some (.directory entries parent _) =>
      return t.setNode id (.directory entries parent permissions)
  | _ => throw .notPermitted

/-- The names in a directory. -/
def list (t : Tree) (cwd : NodeId) (path : String) : Except Errno (List String) := do
  let id ← t.resolve cwd path
  match t.node? id with
  | some (.directory entries _ _) =>
      if t.grants id .read then return entries.map (·.1) else throw .accessDenied
  | _ => throw .notDirectory

/-- What is told of a node. -/
def factsOf (t : Tree) (id : NodeId) : Facts :=
  let n := (t.node? id).getD default
  let (kind, size) : FileKind × Nat :=
    match n with
    | .file data _ => (.regular, data.length)
    | .directory _ _ _ => (.directory, 4096)
    | .link target => (.link, target.utf8ByteSize)
    | .program _ => (.regular, 0)
    | .device _ => (.device, 0)
  ⟨kind, n.permissions, size, id⟩

/-- The names that lead from one directory down to another; `depth` bounds the
number of steps up. -/
def descent (t : Tree) (top : NodeId) (depth : Nat) (id : NodeId) (below : List String) :
    Option (List String) :=
  if id = top then some below
  else
    match depth, t.node? id with
    | depth + 1, some (.directory _ parent _) =>
        match t.node? parent with
        | some (.directory entries _ _) => do
            let (name, _) ← entries.find? (·.2 == id)
            if parent = id then none else t.descent top depth parent (name :: below)
        | _ => none
    | _, _ => none

/-- Everything below a directory, with the path that leads there; `depth`
bounds how far down the listing goes.  There is no listing of what may not be
read. -/
def listing? (t : Tree) (depth : Nat) (directory : NodeId) (path : String) :
    Option (List (String × Node)) :=
  match depth, t.node? directory with
  | depth + 1, some (.directory entries parent permissions) =>
      let d : Node := .directory entries parent permissions
      if !d.grants .read || !d.grants .enter && !entries.isEmpty then none
      else
        entries.foldr (fun (name, id) below ↦ do
          let n ← t.node? id
          if n matches .file _ _ && !n.grants .read then none
          let inside ←
            if n matches .directory _ _ _ then t.listing? depth id (path ++ name ++ "/")
            else some []
          return (path ++ name, n) :: inside ++ (← below)) (some [])
  | _, _ => some []

end Tree

end PipeShell

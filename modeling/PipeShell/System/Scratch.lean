import PipeShell.System.World

/-!
# A world to work in

A scratch directory on a machine with some programs.  Standard input is a file
opened for reading, and the two output streams are files that are appended to;
none of the three has a name.
-/

namespace PipeShell

/-- Something to be put into a directory. -/
inductive Entry where
  /-- A directory, with those above it. -/
  | directory (path : String)
  | link (path target : String)
  | file (path : String) (data : Bytes) (permissions : Nat)

namespace Tree

/-- Makes the directories on a path that are not there yet. -/
def makeDirectories (t : Tree) (cwd : NodeId) (path : String) : Tree :=
  let enter (here : NodeId × Tree) (name : String) : NodeId × Tree :=
    let t := (here.2.makeDirectory 0o777 here.1 name).toOption.getD here.2
    ((t.resolve here.1 name).toOption.getD here.1, t)
  ((names path).foldl enter (base cwd path, t)).2

/-- Takes a name away, whatever it stands for. -/
def remove (t : Tree) (cwd : NodeId) (path : String) : Tree :=
  match t.slot? linkLimit cwd path with
  | .ok (some s) => t.removeEntry s
  | _ => t

/-- Puts something into the tree, in the place of what has its name. -/
def place (t : Tree) (cwd : NodeId) : Entry → Tree
  | .directory path => t.makeDirectories cwd path
  | .link path target => add (t.remove cwd path) path (.link target)
  | .file path data permissions => add (t.remove cwd path) path (.file data permissions)
where
  add (t : Tree) (path : String) (n : Node) : Tree :=
    match t.slot? linkLimit cwd path with
    | .ok (some s) =>
        match t.addEntry s n with
        | .ok (_, t) => t
        | .error _ => t
    | _ => t

end Tree

/-- A scratch directory and the files behind the output streams. -/
structure Scratch where
  directory : NodeId
  output : NodeId
  errors : NodeId

/-- Where a directory is, seen from the scratch directory. -/
inductive Whereabouts where
  /-- In the scratch directory or below it, by this path. -/
  | below (path : List String)
  | root
  | outside
  /-- Removed. -/
  | gone
  deriving DecidableEq, Repr

namespace Scratch

/-- The path of the scratch directory. -/
def path : String := "/tmp/scratch"

/-- Where programs are installed. -/
def programDirectory : String := "/usr/bin"

/-- The directories of the system, in an order that puts a directory behind the
one that it stands in. -/
def systemDirectories : List String :=
  ["/usr", programDirectory, "/usr/local", "/usr/local/bin", "/dev", "/dev/fd", "/etc", "/home",
    "/var", "/"]

/-- The devices of the system. -/
def devices : List (String × Device) :=
  [("null", .null), ("zero", .zero), ("full", .full), ("stdin", .stream 0), ("stdout", .stream 1),
    ("stderr", .stream 2)] ++
    (List.range 10).map fun fd ↦ (s!"fd/{fd}", .stream fd)

/-- The tree before anything is put into the scratch directory.  What belongs to
the system cannot be changed. -/
def bareTree (programs : List (String × (List String → Environment → Program))) : Tree :=
  let changed (permissions : Nat) (t : Tree) (path : String) : Tree :=
    (t.setPermissions Tree.root path permissions).toOption.getD t
  let t := changed 0o777 .empty "/"
  let t := (path :: "/root" :: systemDirectories).foldl
    (fun t path ↦ t.makeDirectories Tree.root path) t
  let t := t.place Tree.root (.link "/bin" "usr/bin")
  let t := devices.foldl
    (fun t (name, d) ↦ Tree.place.add Tree.root t ("/dev/" ++ name) (.device d)) t
  let t := programs.foldl
    (fun t (name, main) ↦
      Tree.place.add Tree.root t (programDirectory ++ "/" ++ name) (.program main)) t
  let t := t.place Tree.root
    (.file "/etc/passwd" (encode "root:x:0:0:root:/root:/bin/sh\n") 0o444)
  let t := t.place Tree.root (.file "/etc/shadow" [] 0o000)
  changed 0o000 (systemDirectories.foldl (changed 0o555) t) "/root"

/-- A world whose current directory is a new scratch directory. -/
def new (programs : List (String × (List String → Environment → Program)))
    (environment : Environment) (entries : List Entry) (input : Bytes) : Scratch × World :=
  let t := bareTree programs
  let directory := (t.resolve Tree.root path).toOption.getD Tree.root
  let t := entries.foldl (fun t e ↦ t.place directory e) t
  let (inputNode, t) := t.addNode (.file input 0o644)
  let (output, t) := t.addNode (.file [] 0o644)
  let (errors, t) := t.addNode (.file [] 0o644)
  let opened := #[.node inputNode .read 0 false, .node output .write 0 true,
    .node errors .write 0 true]
  let table : Table := ⟨[(0, ⟨0, false⟩), (1, ⟨1, false⟩), (2, ⟨2, false⟩)]⟩
  (⟨directory, output, errors⟩,
    ⟨⟨t, opened, #[], #[], 0⟩, table, directory, [], #[], environment,
      .none⟩)

/-- Takes what has been written to a file out of it. -/
def take (file : NodeId) (w : World) : Bytes × World :=
  let t := w.machine.tree
  match t.node? file with
  | some (.file data permissions) =>
      (data, { w with machine := { w.machine with
        tree := t.setNode file (.file [] permissions) } })
  | _ => ([], w)

/-- Where the current directory is. -/
def whereabouts (s : Scratch) (w : World) : Whereabouts :=
  let t := w.machine.tree
  if w.cwd = Tree.root then .root
  else
    match t.descent s.directory t.nodes.size w.cwd [] with
    | some path => .below path
    | none => if t.isLinked w.cwd then .outside else .gone

/-- Everything below the scratch directory, in the order of its path, if all of
it can be read. -/
def files? (s : Scratch) (w : World) : Option (List (String × Node)) :=
  let t := w.machine.tree
  (t.listing? t.nodes.size s.directory "").map (·.mergeSort fun a b ↦ a.1 ≤ b.1)

/-- Puts something into the current directory, from outside. -/
def place (e : Entry) (w : World) : World :=
  { w with machine := { w.machine with tree := w.machine.tree.place w.cwd e } }

/-- Takes a name away, from outside. -/
def remove (path : String) (w : World) : World :=
  { w with machine := { w.machine with tree := w.machine.tree.remove w.cwd path } }

end Scratch

end PipeShell

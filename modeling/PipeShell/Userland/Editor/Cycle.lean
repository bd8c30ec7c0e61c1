import PipeShell.Userland.Action
import PipeShell.Userland.Editor.Script
import PipeShell.Userland.Editor.Substitution

/-!
# Editing

What the stream editor does with its input.  Lines are read into the pattern
space one after another; for each the script is gone through, and then what is in
the pattern space is shown.  What is to be shown behind the line waits in a queue
until the line is done with.
-/

namespace PipeShell.Userland.Editor

open PipeShell.Userland.Action

/-- What a space holds, and whether the line it came from was ended. -/
structure Space where
  text : Bytes
  ended : Bool

/-- What waits to be shown behind the line. -/
inductive Queued where
  | text (data : Bytes)
  | file (path : Bytes)

/-- Where the lines that a command is for have got to. -/
inductive RangeState where
  | before
  /-- Within a range, of which the number of the last line may be known. -/
  | inside (last : Nat)
  | past
  deriving DecidableEq, Repr

/-- A file that is written block by block, with the bytes that are still held. -/
structure Outlet where
  fd : Descriptor
  name : String
  held : Bytes

/-- What lines are written to: an outlet by its number, or the new version of the file
that is changed.  Its last line may have been left open. -/
structure Sink where
  outlet : Option Nat
  unended : Bool

/-- Something that is read. -/
structure Source where
  fd : Descriptor
  name : String
  buffer : Bytes
  atEnd : Bool

/-- How the editor was called. -/
structure Manner where
  quiet : Bool
  /-- Whether every file is a stream of its own. -/
  separate : Bool
  /-- If files are changed, what makes a name for the old one. -/
  inPlace : Option String
  unbuffered : Bool
  /-- The length of the lines in which hidden bytes are revealed. -/
  width : Nat
  terminator : UInt8

/-- The editor at work. -/
structure State where
  call : Call
  manner : Manner
  commands : Array Command
  ranges : Array RangeState
  pattern : Space
  hold : Space
  line : Nat
  /-- Whether something has been replaced since the last line was read. -/
  replaced : Bool
  queue : List Queued
  lastPattern : Option Pattern
  /-- The place that a fault is reported with. -/
  position : Position
  files : List String
  current : Option Source
  /-- The name of the file last opened. -/
  name : String
  /-- Where lines go, and then the files that commands write. -/
  sinks : Array Sink
  sources : Array (Option Source)
  /-- Standard output, and then the files that are written. -/
  outlets : Array Outlet
  /-- What is to be in the file that is changed, the last piece first. -/
  kept : List Bytes
  code : Nat

abbrev Editing := StateT State Action

def act {α : Type} (x : Action α) : Editing α :=
  fun s ↦ do
    let a ← x
    return (a, s)

/-! ## Writing -/

/-- Writes what the outlets hold, that of standard output last, and tells what the
first one refused was. -/
def flushAll : Editing (Option (Nat × Errno)) := do
  let s ← get
  set { s with outlets := s.outlets.map fun (o : Outlet) ↦ { o with held := [] } }
  let mut refused := none
  for (o, n) in s.outlets.toList.zipIdx.reverse do
    if !o.held.isEmpty then
      if let some e ← act (write o.fd o.held) then
        if refused.isNone then refused := some (n, e)
  return refused

/-- Reports something and ends; what is held is written if it can be. -/
def die {α : Type} (code : Nat) (message : String) : Editing α := do
  act ((← get).call.warn message)
  let _ ← flushAll
  act (stop code)

/-- The number of bytes that are held before they are written. -/
def blockSize : Nat := 4096

/-- Writes bytes to an outlet, or to the new version of a file. -/
def emit (outlet : Option Nat) (data : Bytes) : Editing Unit := do
  let s ← get
  match outlet with
  | none => set { s with kept := data :: s.kept }
  | some n =>
      let o := s.outlets[n]?.getD ⟨1, "stdout", []⟩
      let held := o.held ++ data
      let eager := s.manner.unbuffered || o.fd = 2
      let now :=
        if eager then held.length
        else if held.length ≤ blockSize then 0
        else held.length - held.length % blockSize
      set { s with outlets := s.outlets.setIfInBounds n { o with held := held.drop now } }
      if 0 < now then
        if let some e ← act (write o.fd (held.take now)) then
          if eager then
            unless e = .badDescriptor do die 4 s!"couldn't flush {o.name}: {e.text}"
            return ()
          let items := if data.length = 1 then "1 item" else s!"{data.length} items"
          die 4 s!"couldn't write {items} to {o.name}: {e.text}"

/-- Ends the last line of a sink if that has been left open, and tells its outlet. -/
def endLine (n : Nat) : Editing (Option Nat) := do
  let s ← get
  let sink := s.sinks[n]?.getD ⟨some 0, false⟩
  if sink.unended then
    set { s with sinks := s.sinks.setIfInBounds n { sink with unended := false } }
    emit sink.outlet [s.manner.terminator]
  return sink.outlet

/-- Writes a line, which is left open if it was not ended in the input. -/
def emitLine (n : Nat) (text : Bytes) (ended : Bool) : Editing Unit := do
  let outlet ← endLine n
  if !text.isEmpty then emit outlet text
  if ended then emit outlet [(← get).manner.terminator]
  else
    modify fun s ↦ { s with sinks := s.sinks.modify n fun sink ↦ { sink with unended := true } }

/-- Shows the pattern space. -/
def showPattern (n : Nat) : Editing Unit := do
  let s ← get
  emitLine n s.pattern.text s.pattern.ended

/-- Shows the text of a command. -/
def showText (text : Bytes) : Editing Unit := do
  if !text.isEmpty then emitLine 0 text.dropLast true

/-- Shows what waits in the queue. -/
def showQueue : Editing Unit := do
  let s ← get
  set { s with queue := [] }
  for q in s.queue do
    let outlet ← endLine 0
    match q with
    | .text data => if !data.isEmpty then emit outlet data
    | .file path =>
        if let .ok fd ← act (number (.openFile (nameOfBytes path) .read)) then
          let (data, e) ← act (readAll fd)
          act (perform (.close fd))
          if !data.isEmpty then emit outlet data
          if let some e := e then die 4 s!"read error on {plainText path}: {e.text}"

/-! ## Reading -/

/-- Reads a block; when looking ahead, what cannot be read is taken for nothing. -/
def readBlock (ahead : Bool) (source : Source) : Editing Source := do
  let size := if (← get).manner.unbuffered then 1 else blockSize
  match ← act (ask (.read source.fd size)) with
  | .data [] => return { source with atEnd := true }
  | .data piece => return { source with buffer := source.buffer ++ piece }
  | .failed e =>
      if ahead then return { source with atEnd := true }
      let name := if source.name = "-" then "stdin" else source.name
      die 4 s!"read error on {name}: {e.text}"
  | _ => return { source with atEnd := true }

/-- Reads a record, without the byte that ends it, and tells whether there is that
byte; `none` at the end. -/
def readRecord : Nat → Source → Editing (Option Space × Source)
  | 0, source => return (none, source)
  | limit + 1, source => do
      let terminator := (← get).manner.terminator
      let text := source.buffer.takeWhile (· != terminator)
      match source.buffer.drop text.length with
      | _ :: buffer => return (some ⟨text, true⟩, { source with buffer })
      | [] =>
          if source.atEnd then
            return (if text.isEmpty then none else some ⟨text, false⟩, { source with buffer := [] })
          else
            let source ← readBlock false source
            readRecord limit source

/-- The ranges that commands begin with. -/
def newRanges (commands : Array Command) : Array RangeState :=
  commands.map fun c ↦
    match c.selection with
    | .range (.line 0) _ => .inside 0
    | _ => .before

/-- The name that the old version of a file is kept under. -/
def backupName (suffix path : String) : String :=
  let parts := path.splitOn "/"
  let base := parts.getLastD path
  let name := if suffix.contains '*' then suffix.replace "*" base else base ++ suffix
  if name.contains '/' then name else "/".intercalate (parts.dropLast ++ [name])

/-- Puts what has been kept in the place of a file. -/
def replaceFile (suffix : String) (source : Source) : Editing Unit := do
  let s ← get
  set { s with kept := [] }
  let parts := source.name.splitOn "/"
  let directory := if parts.length = 1 then "." else "/".intercalate parts.dropLast
  let new := "/".intercalate (parts.dropLast ++ ["sedSAVED"])
  match ← act (number (.openFile new (.create 0o600))) with
  | .error e => die 4 s!"couldn't open temporary file {directory}/sedSAVED: {e.text}"
  | .ok fd =>
      let _ ← act (write fd s.kept.reverse.flatten)
      act (perform (.close fd))
      if let .ok f ← act (facts (.factsOf source.fd)) then
        act (perform (.setPermissions new f.permissions))
      if suffix ≠ "" then
        if let some e ← act (request (.rename source.name (backupName suffix source.name))) then
          act (perform (.removeFile new))
          die 4 s!"cannot rename {source.name}: {e.text}"
      if let some e ← act (request (.rename new source.name)) then
        act (perform (.removeFile new))
        die 4 s!"cannot rename {new}: {e.text}"

/-- Closes the file that is read. -/
def closeCurrent : Editing Unit := do
  let s ← get
  if let some source := s.current then
    set { s with current := none }
    if let some suffix := s.manner.inPlace then replaceFile suffix source
    act (closeOperand source.name source.fd)
    modify fun s ↦
      if s.manner.inPlace.isSome then
        { s with sinks := s.sinks.modify 0 fun sink ↦ { sink with unended := false } }
      else s

/-- Opens the next file, and tells whether there is one. -/
def openNext : Editing Bool := do
  let s ← get
  match s.files with
  | [] => return false
  | name :: files =>
      set { s with files }
      let fd ← if name = "-" && s.manner.inPlace.isNone then pure (.ok 0)
        else act (number (.openFile name .read))
      match fd with
      | .error e =>
          act (s.call.warn s!"can't read {name}: {e.text}")
          modify fun s ↦ { s with code := max s.code 2 }
      | .ok fd =>
          let regular ← if s.manner.inPlace.isNone then pure true
            else
              match ← act (facts (.factsOf fd)) with
              | .ok f => pure (f.kind == .regular)
              | .error _ => pure false
          if regular then
            modify fun s ↦ { s with current := some ⟨fd, name, [], false⟩, name }
            if s.manner.separate then
              modify fun s ↦ { s with line := 0, ranges := newRanges s.commands }
          else
            die 4 s!"couldn't edit {name}: not a regular file"
      return true

/-- Whether there is no more input; files that have nothing are passed over. -/
def isExhausted : Nat → Editing Bool
  | 0 => return true
  | limit + 1 => do
      match (← get).current with
      | none => if ← openNext then isExhausted limit else return true
      | some source =>
          if !source.buffer.isEmpty then return false
          else if source.atEnd then
            closeCurrent
            isExhausted limit
          else
            let source ← readBlock true source
            modify fun s ↦ { s with current := some source }
            isExhausted limit

/-- Whether the line is the last one. -/
def isLast : Editing Bool := do
  let s ← get
  if s.manner.separate then
    match s.current with
    | none => return true
    | some source =>
        if !source.buffer.isEmpty then return false
        if source.atEnd then return true
        let source ← readBlock true source
        modify fun s ↦ { s with current := some source }
        return source.buffer.isEmpty
  else isExhausted (2 * s.files.length + 3)

/-- Reads the next line into the pattern space, or adds it there, and tells whether
there is one. -/
def readLine (adds : Bool) : Nat → Editing Bool
  | 0 => return false
  | limit + 1 => do
      match (← get).current with
      | none => if ← openNext then readLine adds limit else return false
      | some source =>
          match ← readRecord pieceLimit source with
          | (none, source) =>
              modify fun s ↦ { s with current := some source }
              closeCurrent
              readLine adds limit
          | (some line, source) =>
              modify fun s ↦
                let text :=
                  if adds then s.pattern.text ++ s.manner.terminator :: line.text else line.text
                { s with current := some source, line := s.line + 1, pattern := ⟨text, line.ended⟩ }
              return true

/-- Shows what has waited for the line to be done with, and reads the next one. -/
def advance (adds : Bool) : Editing Bool := do
  showQueue
  modify fun s ↦ { s with replaced := false }
  readLine adds (2 * (← get).files.length + 3)

/-! ## Selecting -/

/-- The pattern meant. -/
def meant (p : Option Pattern) : Editing Pattern := do
  let s ← get
  match p.orElse fun _ ↦ s.lastPattern with
  | some p =>
      set { s with lastPattern := some p }
      return p
  | none => die 1 s!"{s.position.shown}: no previous regular expression"

/-- Whether an address means the line. -/
def Address.means (a : Address) : Editing Bool := do
  let s ← get
  match a with
  | .line n => return s.line == n
  | .every first step => return first ≤ s.line && (s.line - first) % step == 0
  | .last => isLast
  | .matching p => return (← meant p).isIn s.pattern.text

/-- Whether a command is for the line, where a range is told from others by the
place of its command. -/
def Selection.chooses (selection : Selection) (place : Nat) : Editing Bool := do
  match selection with
  | .all => return true
  | .one a => a.means
  | .range first last =>
      let s ← get
      let line := s.line
      let become (range : RangeState) : Editing Unit :=
        modify fun s ↦ { s with ranges := s.ranges.setIfInBounds place range }
      let passed : RangeState := if first matches .line _ then .past else .before
      match s.ranges[place]?.getD .before with
      | .past => return false
      | .before =>
          let begins ← match first with
            | .line n => pure (decide (n ≤ line))
            | a => a.means
          if !begins then return false
          match last with
          | .address (.line m) =>
              if line < m then
                become (.inside 0)
                return true
              become passed
              match first with
              | .line n => return line == m || line == n
              | _ => return true
          | .address (.every first step) =>
              let reached ← (Address.every first step).means
              become (if reached then passed else .inside 0)
          | .address _ => become (.inside 0)
          | .after n => become (if n = 0 then passed else .inside (line + n))
          | .multiple n => become (.inside (line + (n - line % n)))
          return true
      | .inside reach =>
          match last with
          | .address (.line m) =>
              if m ≤ line then become passed
              return line ≤ m
          | .address a =>
              if ← a.means then become passed
              return true
          | _ =>
              if reach ≤ line then become passed
              return true

/-! ## Commands -/

/-- What comes after the commands for a line. -/
inductive Outcome where
  | finished
  /-- The line is not shown. -/
  | deleted
  /-- The commands begin anew, with what is left in the pattern space. -/
  | again
  | stopped (code : Nat)

/-- What comes after a command. -/
inductive Step where
  | on
  | to (place : Nat)
  | out (o : Outcome)

/-- What a byte that is hidden is revealed as. -/
def revealed (b : UInt8) : Bytes :=
  if b == 0x5C then [0x5C, 0x5C]
  else if isPrintable b then [b]
  else encode (byteEscape b)

/-- The bytes of a line revealed, in lines that are no longer than the width. -/
def revealLine (width : Nat) (text : Bytes) : Bytes :=
  let step (state : List Bytes × Nat) (b : UInt8) : List Bytes × Nat :=
    let shown := revealed b
    if 0 < width && width - 1 < state.2 + shown.length then
      (shown :: [0x5C, 10] :: state.1, shown.length)
    else (shown :: state.1, state.2 + shown.length)
  (text.foldl step ([], 0)).1.reverse.flatten ++ [0x24]

/-- Runs a command of the shell and tells what it writes. -/
def outputOf (command : Bytes) : Editing Bytes := do
  let s ← get
  let _ ← flushAll
  match ← act (ask .pipe) with
  | .ends reader writer =>
      let child : Action Nat := do
        perform (.duplicate writer 1)
        perform (.close reader)
        perform (.close writer)
        perform (.execute ["/bin/sh", "-c", nameOfBytes command] s.call.environment)
        return 127
      let pid ← act (fork child.toProgram)
      act do
        perform (.close writer)
        let (data, _) ← readAll reader
        perform (.close reader)
        perform (.wait pid)
        return data
  | _ => return []

/-- Runs the pattern space as a command of the shell, and puts what it writes in its
place. -/
def runPattern : Editing Unit := do
  let s ← get
  let data ← outputOf s.pattern.text
  modify fun t ↦ { t with pattern := { t.pattern with text := chomp s.manner.terminator data } }

/-- Changes the pattern space. -/
def edit (f : Bytes → Bytes) : Editing Unit :=
  modify fun s ↦ { s with pattern := { s.pattern with text := f s.pattern.text } }

/-- Puts something in the queue. -/
def enqueue (q : Queued) : Editing Unit :=
  modify fun s ↦ { s with queue := s.queue ++ [q] }

/-- Does what a substitution says. -/
def replaceIn (t : Substitution) : Editing Unit := do
  let p ← meant t.pattern
  match t.apply? p (← get).pattern.text with
  | none => return ()
  | some text =>
      edit fun _ ↦ text
      modify ({ · with replaced := true })
      if t.runs then
        if t.showsBefore then showPattern 0
        runPattern
      if t.shows then showPattern 0
      if let some n := t.sink then showPattern (n + 1)

/-- Does what a command says. -/
def Verb.carryOut (place : Nat) : Verb → Editing Step
  | .opening _ | .closing => return .on
  | .showNumber => do
      emitLine 0 (digitsIn 10 (← get).line) true
      return .on
  | .showName => do
      emitLine 0 (encode (← get).name) true
      return .on
  | .append text => do
      enqueue (.text text)
      return .on
  | .insert text => do
      showText text
      return .on
  | .change text => do
      if !((← get).ranges[place]? matches some (.inside _)) then showText text
      return .out .deleted
  | .jump .always target => return .to target
  | .jump .substituted target => do
      let s ← get
      set { s with replaced := false }
      return if s.replaced then .to target else .on
  | .jump .notSubstituted target => do
      let s ← get
      set { s with replaced := false }
      return if s.replaced then .on else .to target
  | .delete => return .out .deleted
  | .deleteFirst => do
      let s ← get
      match s.pattern.text.dropWhile (· != s.manner.terminator) with
      | [] => return .out .deleted
      | _ :: rest =>
          edit fun _ ↦ rest
          return .out .again
  | .execute none => do
      runPattern
      return .on
  | .execute (some command) => do
      let data ← outputOf (chomp 10 command)
      let outlet ← endLine 0
      emit outlet data
      return .on
  | .recall => do
      modify fun s ↦ { s with pattern := s.hold }
      return .on
  | .recallMore => do
      modify fun s ↦
        let text := s.pattern.text ++ s.manner.terminator :: s.hold.text
        { s with pattern := ⟨text, s.hold.ended⟩ }
      return .on
  | .hold => do
      modify fun s ↦ { s with hold := s.pattern }
      return .on
  | .holdMore => do
      modify fun s ↦
        let text := s.hold.text ++ s.manner.terminator :: s.pattern.text
        { s with hold := ⟨text, s.pattern.ended⟩ }
      return .on
  | .exchange => do
      modify fun s ↦ { s with pattern := s.hold, hold := s.pattern }
      return .on
  | .reveal width => do
      let s ← get
      emitLine 0 (revealLine (width.getD s.manner.width) s.pattern.text) true
      return .on
  | .next => do
      if ← isLast then return .out .finished
      if !(← get).manner.quiet then showPattern 0
      if ← advance false then return .on
      return .out .deleted
  | .nextMore => do
      if ← isLast then return .out .finished
      if ← advance true then return .on
      return .out .finished
  | .print => do
      showPattern 0
      return .on
  | .printFirst => do
      let s ← get
      emitLine 0 (s.pattern.text.takeWhile (· != s.manner.terminator)) true
      return .on
  | .quit code => do
      if !(← get).manner.quiet then showPattern 0
      let _ ← endLine 0
      showQueue
      return .out (.stopped code)
  | .leave code => return .out (.stopped code)
  | .readFile path => do
      enqueue (.file path)
      return .on
  | .readLine n => do
      if let some (some source) := (← get).sources[n]? then
        let (line, source) ← readRecord pieceLimit source
        modify fun s ↦ { s with sources := s.sources.setIfInBounds n (some source) }
        if let some line := line then
          let terminator := (← get).manner.terminator
          let ending : Bytes := if line.ended then [terminator] else []
          enqueue (.text (line.text ++ ending))
      return .on
  | .substitute t => do
      replaceIn t
      return .on
  | .write n => do
      showPattern (n + 1)
      return .on
  | .writeFirst n => do
      let s ← get
      emitLine (n + 1) (s.pattern.text.takeWhile (· != s.manner.terminator)) true
      return .on
  | .translate table => do
      edit fun text ↦ text.map fun b ↦ (table.lookup b).getD b
      return .on
  | .empty => do
      edit fun _ ↦ []
      return .on

/-- Goes through the commands from a place on; `fuel` bounds the number of those
that are done. -/
def runFrom : Nat → Nat → Editing Outcome
  | 0, _ => return .finished
  | fuel + 1, place => do
      match (← get).commands[place]? with
      | none => return .finished
      | some c =>
          if (← c.selection.chooses place) == c.negated then
            match c.verb with
            | .opening next => runFrom fuel next
            | _ => runFrom fuel (place + 1)
          else
            match ← c.verb.carryOut place with
            | .on => runFrom fuel (place + 1)
            | .to target => runFrom fuel target
            | .out o => return o

/-- The number of commands that are done for one line at most. -/
def commandLimit : Nat := 0x1000000

/-- Ends the editor's work: all is written, and what has been read of standard input
too far is given back. -/
def finish (code : Nat) : Editing Nat := do
  let s ← get
  if let some source := s.current then
    if source.fd = 0 && !source.buffer.isEmpty then
      if let .ok place ← act (number (.place 0)) then
        act (perform (.seek 0 (place - source.buffer.length)))
  closeCurrent
  let refused ← flushAll
  let isOpen := (← act (facts (.factsOf 1))).isOk
  match refused with
  | some (n, e) =>
      let name := if n = 0 then "stdout" else "<unknown>"
      let what := if e = .badDescriptor then "close" else "flush"
      act (s.call.warn s!"couldn't {what} {name}: {e.text}")
      return 4
  | none =>
      if isOpen then return code
      act (s.call.warn s!"couldn't close stdout: {Errno.badDescriptor.text}")
      return 4

/-- Does the editor's work, line by line; `restarted` says whether the line is there
already. -/
def work (restarted : Bool) : Nat → Editing Nat
  | 0 => return 0
  | limit + 1 => do
      if !restarted then
        if !(← advance false) then return ← finish (← get).code
      match ← runFrom commandLimit 0 with
      | .finished =>
          if !(← get).manner.quiet then showPattern 0
          showQueue
          work false limit
      | .deleted => work false limit
      | .again => work true limit
      | .stopped code => finish code

end PipeShell.Userland.Editor

import PipeShell.Userland.Shell.Printing

/-!
# Settings

The commands of the shell that set and show its variables, its options, its parameters
and its aliases.
-/

namespace PipeShell.Userland.Shell

open PipeShell.Userland.Action Running

/-! ## Variables -/

/-- A text cut at its first equals sign. -/
def cutAtEquals (text : Bytes) : Bytes × Option Bytes :=
  match text.span (· != 0x3D) with
  | (name, _ :: value) => (name, some value)
  | (name, []) => (name, none)

/-- Shows variables in order, each behind a word. -/
def showVariables (word : Bytes) (holds : Variable → Bool) : Running Unit := do
  let shown := (← state).bindings.filter holds
  let lead := if word.isEmpty then [] else word ++ [0x20]
  for v in shown.mergeSort fun a b ↦ compareBytes a.name b.name != .gt do
    let value := match v.value with
      | some value => 0x3D :: singleQuoted value
      | none => []
    emit (lead ++ v.name ++ value ++ [10])

/-- Gives a variable a value, if one is given, and marks it. -/
def markVariable (name : Bytes) (value : Option Bytes) (export_ readOnly : Bool) :
    Running Unit := do
  if value.isSome || ((← state).variableOf? name).isNone then
    let _ ← nameOf name
  if value.isSome then assign name value export_
  change fun s ↦
    let v := (s.variableOf? name).getD ⟨name, none, false, false, false⟩
    s.putVariable { v with exported := v.exported || export_, readOnly := v.readOnly || readOnly }

/-- The commands `export` and `readonly`. -/
def mark (export_ : Bool) (args : List Bytes) : Running Nat := do
  let (found, rest) ← options "p" args
  if !found.isEmpty || rest.isEmpty then
    let word := encode (if export_ then "export" else "readonly")
    showVariables word fun v ↦ if export_ then v.exported else v.readOnly
    return 0
  for argument in rest do
    let (name, value) := cutAtEquals argument
    markVariable name value export_ (!export_)
  return 0

/-- The command `unset`. -/
def unset (args : List Bytes) : Running Nat := do
  let (found, rest) ← options "vf" args
  let functions := (found.getLast?.map (·.1)) == some 'f'
  for name in rest do
    if functions then change fun s ↦ { s with functions := s.functions.filter (·.1 != name) }
    else assign (← nameOf name) none false
  return 0

/-- The command `local`. -/
def makeLocal (args : List Bytes) : Running Nat := do
  if (← state).kept.isEmpty then fail "not in a function"
  for argument in ← operands args do
    if argument == [0x2D] then
      change fun s ↦
        match s.kept with
        | top :: below => { s with kept := (.options s.options :: top) :: below }
        | [] => s
    else
      let (name, value) := cutAtEquals argument
      if value.isNone && ((← state).variableOf? name).isNone then
        let _ ← nameOf name
      keepVariable name
      if value.isSome then assign name value false
  return 0

/-! ## Options -/

/-- The options by name, with their letters. -/
def optionNames : List (String × Option Char) :=
  [("errexit", some 'e'), ("noglob", some 'f'), ("ignoreeof", some 'I'), ("interactive", some 'i'),
    ("monitor", some 'm'), ("noexec", some 'n'), ("stdin", some 's'), ("xtrace", some 'x'),
    ("verbose", some 'v'), ("vi", some 'V'), ("emacs", some 'E'), ("noclobber", some 'C'),
    ("allexport", some 'a'), ("notify", some 'b'), ("nounset", some 'u'), ("privileged", some 'p'),
    ("nolog", none), ("debug", none)]

/-- Sets an option or takes it back. -/
def State.setOption (s : State) (letter : Char) (on : Bool) : State :=
  let others := s.options.filter (· != letter)
  { s with options := if on then letter :: others else others }

/-- Sets the option of a letter. -/
def setLetter (on : Bool) (letter : Char) : Running Unit := do
  if optionNames.any (·.2 == some letter) then change (·.setOption letter on)
  else fail s!"Illegal option -{letter}"

/-- Sets the option of a name, or shows all of them. -/
def setNamed (on : Bool) (name : Option Bytes) : Running Unit := do
  let s ← state
  let isOn (letter : Option Char) : Bool := letter.any s.hasOption
  match name with
  | some name =>
      match optionNames.find? fun o ↦ encode o.1 == name with
      | some (_, some letter) => change (·.setOption letter on)
      | some (_, none) => return ()
      | none => failWith (encode "Illegal option -o " ++ name)
  | none =>
      if on then
        emit (encode "Current option settings\n")
        for (name, letter) in optionNames do
          let word := if isOn letter then "on" else "off"
          emit (padRight 16 (encode name) ++ encode (word ++ "\n"))
      else
        for (name, letter) in optionNames do
          let sign := if isOn letter then "-o" else "+o"
          emit (encode s!"set {sign} {name}\n")

/-- Sets the options in front of some arguments, and tells what follows them, if that is
to be the parameters.  What is done with the letter `c` and with `l` is told by the
flags: a shell that is started has them as options of its own. -/
def setOptions (starting : Bool) : Nat → List Bytes → Running (List Bytes × Bool × Bool)
  | limit + 1, word :: rest => do
      match word with
      | [0x2D] =>
          unless starting do change fun s ↦ (s.setOption 'x' false).setOption 'v' false
          return (rest, false, false)
      | [0x2D, 0x2D] => return (rest, true, false)
      | sign :: letters =>
          if sign != 0x2D && sign != 0x2B then return (word :: rest, false, false)
          let (rest, ofCommand) ← setRow starting (sign == 0x2D) rest letters
          let (rest, all, later) ← setOptions starting limit rest
          return (rest, all, ofCommand || later)
      | [] => return (word :: rest, false, false)
  | _, args => return (args, false, false)
where
  /-- Sets the options of a row of letters. -/
  setRow (starting on : Bool) (rest : List Bytes) : Bytes → Running (List Bytes × Bool)
    | [] => return (rest, false)
    | b :: letters => do
        let letter := Char.ofNat b.toNat
        if letter == 'o' then
          setNamed on rest.head?
          setRow starting on (rest.drop 1) letters
        else if starting && letter == 'c' then
          let (rest, _) ← setRow starting on rest letters
          return (rest, true)
        else if starting && letter == 'l' then setRow starting on rest letters
        else
          setLetter on letter
          setRow starting on rest letters

/-- Gives the script other parameters. -/
def State.setParameters (s : State) (parameters : List Bytes) : State :=
  { s with parameters, optionPlace := ⟨1, none⟩ }

/-- The command `set`. -/
def changeSettings (args : List Bytes) : Running Nat := do
  if args.isEmpty then
    showVariables [] (·.value.isSome)
    return 0
  let (rest, all, _) ← setOptions false (args.length + 1) args
  if all || !rest.isEmpty then change (·.setParameters rest)
  return 0

/-! ## Parameters -/

/-- The command `shift`. -/
def shift (args : List Bytes) : Running Nat := do
  let n ← match args with
    | [] => pure 1
    | count :: _ => numberOf count
  let s ← state
  if s.parameters.length < n then fail "can't shift that many"
  change (·.setParameters (s.parameters.drop n))
  return 0

/-- Gives a variable a value without telling whether it changes where options are
read. -/
def setQuietly (name value : Bytes) : Running Unit := do
  let place := (← state).optionPlace
  setVariable name value
  change fun s ↦ { s with optionPlace := place }

/-- What has been found by `getopts`: the letter, if there is one, what is known of its
value, and what is left of the argument it stands in. -/
structure FoundOption where
  letter : UInt8
  index : Nat
  letters : Option Nat
  done : Bool

/-- Looks for the next option. -/
def nextOption (letters : Bytes) (args : List Bytes) : Running FoundOption := do
  let place := (← state).optionPlace
  let argumentAt (index : Nat) : Option Bytes := if index = 0 then none else args[index - 1]?
  let quiet := letters.head? == some 0x3A
  let current :=
    match place.letters, argumentAt (place.index - 1) with
    | some n, some text => text.drop n
    | _, _ => []
  let finished (index : Nat) : FoundOption := ⟨0x3F, index, none, true⟩
  let begun : Option (Bytes × Nat) ⊕ Nat :=
    if !current.isEmpty then .inl (some (current, place.index))
    else
      match argumentAt place.index with
      | some (0x2D :: c :: rest) =>
          if c == 0x2D && rest.isEmpty then .inr (place.index + 1)
          else .inl (some (c :: rest, place.index + 1))
      | _ => .inr place.index
  match begun with
  | .inr index => return finished index
  | .inl none => return finished place.index
  | .inl (some (text, index)) =>
      let c := text.headD 0
      let rest := text.drop 1
      let used := ((argumentAt (index - 1)).getD []).length - rest.length
      let known := c != 0x3A && letters.contains c
      let valued := ((letters.dropWhile (· != c)).drop 1).head? == some 0x3A
      let complain (what : String) : Running Unit := do
        if quiet then setVariable (encode "OPTARG") [c]
        else
          say (encode what)
          assign (encode "OPTARG") none false
      if !known then
        complain ("Illegal option -" ++ nameOfBytes [c] ++ "\n")
        return ⟨0x3F, index, some used, false⟩
      else if valued then
        if !rest.isEmpty then
          setVariable (encode "OPTARG") rest
          return ⟨c, index, none, false⟩
        else
          match argumentAt index with
          | some value =>
              setVariable (encode "OPTARG") value
              return ⟨c, index + 1, none, false⟩
          | none =>
              complain ("No arg for -" ++ nameOfBytes [c] ++ " option\n")
              return ⟨if quiet then 0x3A else 0x3F, index, some used, false⟩
      else
        setVariable (encode "OPTARG") []
        return ⟨c, index, some used, false⟩

/-- The command `getopts`. -/
def getopts (args : List Bytes) : Running Nat := do
  match ← operands args with
  | letters :: name :: rest =>
      let words ← if rest.isEmpty then pure (← state).parameters else pure rest
      if words.length + 1 < (← state).optionPlace.index then
        change fun s ↦ { s with optionPlace := ⟨1, none⟩ }
      let found ← nextOption letters words
      setQuietly (encode "OPTIND") (decimalText found.index)
      setQuietly name [found.letter]
      change fun s ↦ { s with optionPlace := ⟨found.index, found.letters⟩ }
      return if found.done then 1 else 0
  | _ => fail "Usage: getopts optstring var [arg...]"

/-! ## Aliases -/

/-- Shows an alias. -/
def showAlias (entry : Bytes × Bytes) : Running Unit :=
  emit (entry.1 ++ [0x3D] ++ singleQuoted entry.2 ++ [10])

/-- The command `alias`. -/
def defineAliases (args : List Bytes) : Running Nat := do
  if args.isEmpty then
    let aliases := (← state).aliases
    for row in List.range rowCount do
      for entry in aliases do
        if rowOf entry.1 = row then showAlias entry
    return 0
  let mut status := 0
  for argument in args do
    match cutAtEquals (argument.drop 1) with
    | (rest, some value) =>
        let name := argument.take 1 ++ rest
        change fun s ↦
          let entry := (name, value)
          if s.aliases.any (·.1 == name) then
            { s with aliases := s.aliases.map fun old ↦ if old.1 == name then entry else old }
          else { s with aliases := s.aliases ++ [entry] }
    | (_, none) =>
        match (← state).aliases.lookup argument with
        | some value => showAlias (argument, value)
        | none =>
            say (encode "alias: " ++ argument ++ encode " not found\n")
            status := 1
  return status

/-- The command `unalias`. -/
def dropAliases (args : List Bytes) : Running Nat := do
  let (found, rest) ← options "a" args
  if !found.isEmpty then
    change fun s ↦ { s with aliases := [] }
    return 0
  let mut status := 0
  for name in rest do
    if (← state).aliases.any (·.1 == name) then
      change fun s ↦ { s with aliases := s.aliases.filter (·.1 != name) }
    else
      say (encode "unalias: " ++ name ++ encode " not found\n")
      status := 1
  return status

/-! ## Reading a line -/

/-- A byte that has been read, and whether a backslash stood in front of it. -/
structure ReadByte where
  byte : UInt8
  kept : Bool

/-- Reads a line byte by byte; the answer says whether it has an end. -/
def readLine (raw : Bool) : Nat → List ReadByte → Action (List ReadByte × Bool)
  | 0, line => return (line.reverse, false)
  | limit + 1, line => do
      match ← ask (.read 0 1) with
      | .data [b] =>
          if b == 0 then readLine raw limit line
          else if b == 0x0A then return (line.reverse, true)
          else if b == 0x5C && !raw then
            match ← ask (.read 0 1) with
            | .data [c] =>
                readLine raw limit (if c == 0x0A || c == 0 then line else ⟨c, true⟩ :: line)
            | _ => return (line.reverse, false)
          else readLine raw limit (⟨b, false⟩ :: line)
      | _ => return (line.reverse, false)

/-- A line being cut into fields. -/
structure LineFields where
  /-- How many fields there may still be, this one not counted. -/
  left : Nat
  done : List Bytes
  /-- The bytes of the field, the last one first. -/
  field : Bytes
  /-- Behind a separator: whether only blanks have been met. -/
  skipping : Option Bool
  /-- The separators at the end of the last field, the last one first, and whether one
  that is not a blank may follow. -/
  held : Option (Bytes × Bool)
  /-- Whether there have been separators in the last field. -/
  divided : Bool

namespace LineFields

/-- Takes a byte of the field. -/
def add (f : LineFields) (b : UInt8) : LineFields :=
  let field := match f.held with
    | some (held, _) => held ++ f.field
    | none => f.field
  { f with field := b :: field, skipping := none, held := none }

/-- Takes a separator that does not follow another one. -/
def separator (f : LineFields) (b : UInt8) (blank : Bool) : LineFields :=
  let f := { f with skipping := none }
  if f.field.isEmpty && blank then f
  else
    match f.left with
    | 0 =>
        if f.divided && !blank then f.add b
        else { f with held := some ([b], blank && !f.divided), divided := true }
    | left + 1 =>
        { f with left, done := f.done ++ [f.field.reverse], field := [], skipping := some blank }

/-- Takes a byte. -/
def step (separators : Bytes) (f : LineFields) (r : ReadByte) : LineFields :=
  let b := r.byte
  let separates := !r.kept && separators.contains b
  let blank := separates && State.usualSeparators.contains b
  match f.held, f.skipping with
  | some (held, open_), _ =>
      if blank then { f with held := some (b :: held, open_) }
      else if separates && open_ then { f with held := some (b :: held, false) }
      else if separates then
        { f.add b with held := none }
      else f.add b
  | none, some onlyBlanks =>
      if blank then f
      else if separates then
        if onlyBlanks then { f with skipping := some false } else f.separator b blank
      else f.add b
  | none, none => if separates then f.separator b blank else f.add b

end LineFields

/-- The fields of a line, of which there may be so many. -/
def lineFields (separators : Bytes) (count : Nat) (line : List ReadByte) : List Bytes :=
  let f := line.foldl (LineFields.step separators) ⟨count - 1, [], [], none, none, false⟩
  if f.field.isEmpty && f.held.isNone then f.done else f.done ++ [f.field.reverse]

/-- The command `read`. -/
def read (args : List Bytes) : Running Nat := do
  let (found, names) ← options "p:r" args
  if names.isEmpty then fail "arg count"
  let (line, ended) ← act (readLine (found.any (·.1 == 'r')) pieceLimit [])
  let s ← state
  let fields := lineFields s.separators names.length line
  for (name, i) in names.zipIdx do setVariable name (fields.getD i [])
  return if ended then 0 else 1

end PipeShell.Userland.Shell

import PipeShell.Userland.Options
import PipeShell.Userland.Sizes
import PipeShell.Userland.SortKeys

/-!
# Lines in order

The programs `sort`, `uniq` and `comm`.
-/

namespace PipeShell.Userland

open PipeShell.Userland.Action

/-- How lines are put in order. -/
structure SortOrder where
  separator : Option UInt8
  keys : List SortKey
  /-- Whether the last comparison, byte by byte, is turned round. -/
  reverse : Bool
  stable : Bool
  once : Bool

/-- How two lines stand to each other. -/
def SortOrder.comparison (o : SortOrder) (a b : Bytes) : Ordering :=
  match compareKeys o.separator a b o.keys with
  | .eq =>
      if !o.keys.isEmpty && (o.once || o.stable) then .eq
      else if o.reverse then compareBytes b a
      else compareBytes a b
  | other => other

def SortOrder.le (o : SortOrder) (a b : Bytes) : Bool :=
  o.comparison a b != .gt

/-- The first of any lines in a row that are equal. -/
def SortOrder.unique (o : SortOrder) (lines : List Bytes) : List Bytes :=
  if !o.once then lines
  else
    let keep (kept : List Bytes) (line : Bytes) : List Bytes :=
      match kept with
      | last :: _ => if o.comparison last line == .eq then kept else line :: kept
      | [] => [line]
    (lines.foldl keep []).reverse

/-- Lines put in order. -/
def SortOrder.sort (o : SortOrder) (lines : List Bytes) : List Bytes :=
  o.unique (lines.mergeSort o.le)

/-- Lines of two lists, as long as the first of the second list does not have to
come before. -/
def SortOrder.merge (o : SortOrder) : List Bytes → List Bytes → List Bytes
  | [], bs => bs
  | as, [] => as
  | a :: as, b :: bs =>
      if o.le a b then a :: o.merge as (b :: bs) else b :: o.merge (a :: as) bs
termination_by as bs => as.length + bs.length

/-- The first line that does not come behind the one before it, with its
number. -/
def SortOrder.disorder? (o : SortOrder) (number : Nat) : List Bytes → Option (Nat × Bytes)
  | a :: b :: rest =>
      let bad := if o.once then o.comparison a b != .lt else o.comparison a b == .gt
      if bad then some (number + 1, b) else o.disorder? (number + 1) (b :: rest)
  | _ => none

/-! ## Reading keys -/

/-- The ways to compare that have letters. -/
def orderOfLetter? (letter : Char) : Option KeyOrder :=
  [('g', .general), ('h', .human), ('M', .month), ('n', .numeric), ('R', .random),
    ('V', .version)].lookup letter

/-- Adds the option of a letter to a style. -/
def KeyStyle.withLetter? (style : KeyStyle) (start stop : Bool) (letter : Char) :
    Option KeyStyle :=
  match letter with
  | 'b' => some { style with
      blanksAtStart := style.blanksAtStart || start
      blanksAtEnd := style.blanksAtEnd || stop }
  | 'd' => some { style with dictionary := true, printable := false }
  | 'f' => some { style with folds := true }
  | 'i' => some (if style.dictionary then style else { style with printable := true })
  | 'r' => some { style with reverse := true }
  | letter => (orderOfLetter? letter).map fun order ↦ { style with orders := order :: style.orders }

/-- The letters of a style, and what follows them. -/
def readStyleLetters (start stop : Bool) (style : KeyStyle) : List Char → KeyStyle × List Char
  | [] => (style, [])
  | c :: rest =>
      match style.withLetter? start stop c with
      | some style => readStyleLetters start stop style rest
      | none => (style, c :: rest)

/-- A count in a key, and what follows it. -/
def readCount (what : String) (text : List Char) : Except String (Nat × List Char) :=
  let digits := text.takeWhile Char.isDigit
  if digits.isEmpty then
    .error s!"{what}: invalid count at start of {quoted (String.ofList text)}"
  else .ok ((decimal? (String.ofList digits)).getD 0, text.drop digits.length)

/-- Reads a key. -/
def readKey (spec : String) : Except String SortKey := do
  let wrong (what : String) : String := s!"{what}: invalid field specification {quoted spec}"
  let (field, rest) ← readCount "invalid number at field start" spec.toList
  if field = 0 then throw (wrong "field number is zero")
  let (byte, rest) ←
    match rest with
    | '.' :: more => do
        let (n, rest) ← readCount "invalid number after '.'" more
        if n = 0 then throw (wrong "character offset is zero")
        pure (n - 1, rest)
    | rest => pure (0, rest)
  let (style, rest) := readStyleLetters true false .plain rest
  let (last, lastByte, style, rest) ←
    match rest with
    | ',' :: more => do
        let (n, rest) ← readCount "invalid number after ','" more
        if n = 0 then throw (wrong "field number is zero")
        let (b, rest) ←
          match rest with
          | '.' :: more => readCount "invalid number after '.'" more
          | rest => pure (0, rest)
        let (style, rest) := readStyleLetters false true style rest
        pure (some (n - 1), b, style, rest)
    | rest => pure (none, 0, style, rest)
  if !rest.isEmpty then throw (wrong "stray character in field spec")
  return ⟨field - 1, byte, last, lastByte, style⟩

/-- What is wrong with a size among the options of `sort`. -/
def sortSizeFault? (option : String) (text : String) : Option Complaint :=
  let bytes := encode text
  let unit := bytes.dropWhile isDigit
  let plain := unit == encode "b" || unit == encode "%"
  if plain && unit.length < bytes.length then none
  else
    match readSize "EgGkKmMPQRtTYZ" text with
    | .ok _ => none
    | .error .tooLarge => some (.plain s!"{option} argument {quoted text} too large")
    | .error .suffix => some (.plain s!"invalid suffix in {option} argument {quoted text}")
    | .error .malformed => some (.plain s!"invalid {option} argument {quoted text}")

/-- What is wrong with the number of threads that `sort` is to use. -/
def threadsFault? (text : String) : Option Complaint :=
  match readSize "" text with
  | .ok 0 => some (.plain "number in parallel must be nonzero")
  | .ok _ | .error .tooLarge => none
  | .error .suffix => some (.plain s!"invalid suffix in --parallel argument {quoted text}")
  | .error .malformed => some (.plain s!"invalid --parallel argument {quoted text}")

/-- The options of `sort`. -/
def sortChoices : List Choice :=
  let orders := [["general-numeric"], ["human-numeric"], ["month"], ["numeric"], ["random"],
    ["version"]]
  let size := Choice.valued (.letter 'S')
  [.flag 'b' "ignore-leading-blanks", .flag 'd' "dictionary-order", .flag 'f' "ignore-case",
    .flag 'g' "general-numeric-sort", .flag 'i' "ignore-nonprinting", .flag 'M' "month-sort",
    .flag 'h' "human-numeric-sort", .flag 'n' "numeric-sort", .flag 'r' "reverse",
    .flag 'R' "random-sort", .flag 'V' "version-sort", .flag 's' "stable", .flag 'u' "unique",
    .flag 'm' "merge", .flag 'z' "zero-terminated", .letter 'c', .letter 'C',
    (Choice.word "check").maybeValued.among [["quiet", "silent"], ["diagnose-first"]],
    (Choice.word "sort").valued.among orders,
    (Choice.flag 'k' "key").valued, (Choice.flag 'o' "output").valued,
    (Choice.flag 't' "field-separator").valued, size.checked (sortSizeFault? "-S"),
    (Choice.word "buffer-size").valued.checked (sortSizeFault? "--buffer-size"),
    (Choice.flag 'T' "temporary-directory").valued,
    (Choice.word "parallel").valued.checked threadsFault?, (Choice.word "batch-size").valued]

/-- What the options of `sort` ask for. -/
structure SortRequest where
  overall : KeyStyle
  /-- The keys, the last one first. -/
  keys : List SortKey
  separator : Option UInt8
  /-- The letter of the option that asks whether lines are in order. -/
  check : Option Char
  output : Option String

/-- The separator that an option gives. -/
def readSeparator (text : String) : Except Complaint UInt8 :=
  match encode text with
  | [] => .error (.plain "empty tab")
  | [b] => .ok b
  | [0x5C, 48] => .ok 0
  | _ => .error (.plain s!"multi-character tab {quoted text}")

namespace SortRequest

/-- Adds an option. -/
def add (r : SortRequest) (o : String × Option String) : Except Complaint SortRequest := do
  let text := o.2.getD ""
  let checking (letter : Char) : Except Complaint SortRequest :=
    if r.check.any (· != letter) then .error (.plain "options '-cC' are incompatible")
    else .ok { r with check := some letter }
  match o.1 with
  | "c" => checking 'c'
  | "C" => checking 'C'
  | "check" => checking (if text == "quiet" then 'C' else 'c')
  | "k" =>
      match readKey text with
      | .ok k => return { r with keys := k :: r.keys }
      | .error fault => throw (.plain fault)
  | "o" =>
      if r.output.any (· != text) then throw (.plain "multiple output files specified")
      return { r with output := some text }
  | "t" =>
      let b ← readSeparator text
      if r.separator.any (· != b) then throw (.plain "incompatible tabs")
      return { r with separator := some b }
  | key =>
      let letter :=
        if key != "sort" then key.toList.headD ' '
        else if text == "month" then 'M'
        else if text == "random" then 'R'
        else if text == "version" then 'V'
        else text.toList.headD ' '
      if key.length = 1 || key == "sort" then
        return { r with overall := (r.overall.withLetter? true true letter).getD r.overall }
      else return r

/-- The order that is asked for. -/
def order (r : SortRequest) (stable once : Bool) : Except Complaint SortOrder := do
  let keys := r.keys.reverse.map fun k ↦
    if k.style = .plain then { k with style := r.overall } else k
  let keys :=
    if keys.isEmpty && { r.overall with reverse := false } ≠ KeyStyle.plain then
      [SortKey.line r.overall]
    else keys
  match keys.findSome? (·.style.clash?) with
  | some letters => throw (.plain s!"options '-{letters}' are incompatible")
  | none => return ⟨r.separator, keys, r.overall.reverse, stable, once⟩

end SortRequest

/-- Checks that all operands can be read. -/
def checkInputs (c : Call) (operands : List String) : Action Unit := do
  for path in operands do
    if path ≠ "-" then
      match ← number (.openFile path .read) with
      | .ok fd => perform (.close fd)
      | .error e => c.die 2 s!"cannot read: {shownName path}: {e.text}"

/-- Reads an operand. -/
def sortInput (c : Call) (path : String) : Action Bytes := do
  match ← openOperand path with
  | .error e => c.die 2 s!"open failed: {shownName path}: {e.text}"
  | .ok fd =>
      let (data, e) ← readAll fd
      if let some e := e then c.die 2 s!"read failed: {shownName path}: {e.text}"
      closeOperand path fd
      return data

/-- Tells whether the lines of a file are in order. -/
def checkOrder (c : Call) (o : SortOrder) (terminator : UInt8) (loud : Bool) (path : String) :
    Action Nat := do
  let data ← sortInput c path
  match o.disorder? 1 (linesOf terminator data) with
  | none => return 0
  | some (n, line) =>
      if loud then
        tell 2 s!"{c.name}: {shownName path}:{n}: disorder: "
        if (← write 2 (line ++ [terminator])).isSome then return 2
      return 1

/-- The number of bytes that are held before they are written. -/
def blockSize : Nat := 4096

/-- The program `sort`. -/
def sortMain (c : Call) : Action Nat := do
  let (a, complaint) := c.readPartly sortChoices
  let request ←
    match a.options.foldlM SortRequest.add ⟨.plain, [], none, none, none⟩ with
    | .ok request => pure request
    | .error complaint => c.reject 2 complaint
  c.rejectAny 2 complaint
  let o ←
    match request.order (a.has "s") (a.has "u") with
    | .ok o => pure o
    | .error complaint => c.reject 2 complaint
  let terminator : UInt8 := if a.has "z" then 0 else 10
  if let some letter := request.check then
    if let _ :: extra :: _ := a.operands then
      c.die 2 s!"extra operand {quotedName extra} not allowed with -{letter}"
    if request.output.isSome then c.die 2 s!"options '-{letter}o' are incompatible"
    return ← checkOrder c o terminator (letter == 'c') (a.operands.headD "-")
  let paths := orInput a.operands
  checkInputs c paths
  if let some path := request.output then
    match ← number (.openFile path (.append 0o666)) with
    | .ok fd => perform (.close fd)
    | .error e => c.die 2 s!"open failed: {shownName path}: {e.text}"
  let mut inputs : List Bytes := []
  for path in paths do
    if path = "-" then
      if let .error e ← facts (.factsOf 0) then c.die 2 s!"stat failed: -: {e.text}"
    inputs := inputs ++ [← sortInput c path]
  let lines := inputs.map (linesOf terminator)
  let sorted :=
    if a.has "m" then o.unique (lines.foldl o.merge []) else o.sort lines.flatten
  let text := unlines terminator sorted
  match request.output with
  | none =>
      if let some e ← write 1 text then
        let what := if text.length ≤ blockSize then "fflush" else "write"
        c.warn s!"{what} failed: 'standard output': {e.text}"
        let closed := e = .badDescriptor && a.operands.isEmpty
        c.die 2 (if closed then s!"write error: {e.text}" else "write error")
  | some path =>
      match ← number (.openFile path (.write 0o666)) with
      | .ok fd =>
          if let some e ← write fd text then
            c.die 2 s!"write failed: {shownName path}: {e.text}"
      | .error e => c.die 2 s!"open failed: {shownName path}: {e.text}"
  return 0

/-! ## Equal lines -/

/-- What `uniq` shows of lines in a row that are equal. -/
structure UniqStyle where
  counts : Bool
  /-- Whether lines that stand alone are shown. -/
  singles : Bool
  /-- Whether one line of several is shown. -/
  several : Bool
  /-- Whether all lines of several are shown. -/
  allOfSeveral : Bool
  fields : Nat
  bytes : Nat
  width : Option Nat
  folds : Bool
  terminator : UInt8
  /-- Whether an empty line stands in front of the first group. -/
  opens : Bool
  /-- Whether one stands in front of every other group. -/
  separates : Bool
  /-- Whether one stands behind every group. -/
  appends : Bool
  grouped : Bool

/-- The part of a line that is compared. -/
def UniqStyle.key (u : UniqStyle) (line : Bytes) : Bytes :=
  let rest := (dropFields none u.fields line).drop u.bytes
  let rest :=
    match u.width with
    | some n => rest.take n
    | none => rest
  if u.folds then rest.map toUpper else rest

/-- What is written of equal lines; `first` says whether it is the first that is. -/
def UniqStyle.group (u : UniqStyle) (first : Bool) (lines : List Bytes) : Bytes :=
  let write (lines : List Bytes) : Bytes := unlines u.terminator lines
  let empty (p : Bool) : Bytes := if p then [u.terminator] else []
  let count := lines.length
  if u.grouped || u.allOfSeveral then
    if u.allOfSeveral && count = 1 then []
    else
      let lines := if u.several then lines else lines.dropLast
      empty (if first then u.opens else u.separates) ++ write lines ++ empty u.appends
  else if if count = 1 then u.singles else u.several then
    let line := lines.headD []
    if u.counts then write [padded 7 count ++ 32 :: line] else write [line]
  else []

/-- A number among the options of `uniq`; what is too large counts as much as possible. -/
def uniqNumber? (text : String) : Option Nat :=
  match readSize "" text with
  | .ok n => some n
  | .error .tooLarge => some (wordModulus - 1)
  | .error _ => none

/-- The options of `uniq`. -/
def uniqChoices : List Choice :=
  let number (o : Choice) (what : String) : Choice :=
    o.valued.checked fun text ↦
      if (uniqNumber? text).isSome then none else some (.plain s!"{text}: invalid number of {what}")
  [.flag 'c' "count", .flag 'd' "repeated", .letter 'D',
    (Choice.word "all-repeated").maybeValued.among [["none"], ["prepend"], ["separate"]],
    number (.flag 'f' "skip-fields") "fields to skip",
    (Choice.word "group").maybeValued.among [["prepend"], ["append"], ["separate"], ["both"]],
    .flag 'i' "ignore-case", number (.flag 's' "skip-chars") "bytes to skip", .flag 'u' "unique",
    number (.flag 'w' "check-chars") "bytes to compare", .flag 'z' "zero-terminated"] ++
    "0123456789".toList.map Choice.letter

/-- The number of fields that are skipped: that of an option, or that of the digits among the
options. -/
def skippedFields (a : Arguments) : Nat :=
  let step (state : Bool × Nat) (o : String × Option String) : Bool × Nat :=
    if o.1 == "f" then (false, (uniqNumber? (o.2.getD "")).getD 0)
    else
      match decimal? o.1 with
      | some digit => (true, min (wordModulus - 1) ((if state.1 then state.2 * 10 else 0) + digit))
      | none => state
  (a.options.foldl step (false, 0)).2

/-- The number that an operand like `+3` stands for. -/
def plusNumber? (operand : String) : Option Nat :=
  match readWhole operand with
  | .ok n => if operand.startsWith "+" then some n.toNat else none
  | .error _ => none

/-- The program `uniq`. -/
def uniqMain (c : Call) : Action Nat := do
  let a ← c.read uniqChoices 1
  let skips := a.early.filterMap plusNumber?
  let operands :=
    a.early.filter (fun operand ↦ (plusNumber? operand).isNone) ++ a.operands.drop a.early.length
  if let _ :: _ :: extra :: _ := operands then c.extraOperand extra
  let all := a.has "D" || a.has "all-repeated"
  let repeated := (a.value? "all-repeated").getD "none"
  let grouped := a.has "group"
  let group := (a.value? "group").getD "separate"
  if grouped && (a.has "c" || a.has "d" || all || a.has "u") then
    c.misuse 1 "--group is mutually exclusive with -c/-d/-D/-u"
  if a.has "c" && all then
    c.misuse 1 "printing all duplicated lines and repeat counts is meaningless"
  let u : UniqStyle := {
    counts := a.has "c"
    singles := !(a.has "d" || all)
    several := !a.has "u"
    allOfSeveral := all
    fields := skippedFields a
    bytes := (skips.getLast?.or ((a.value? "s").bind uniqNumber?)).getD 0
    width := (a.value? "w").bind uniqNumber?
    folds := a.has "i"
    terminator := if a.has "z" then 0 else 10
    opens := (all && repeated == "prepend") || (grouped && (group == "prepend" || group == "both"))
    separates := (all && repeated != "none") || (grouped && (group == "separate" || group == "prepend"))
    appends := grouped && (group == "append" || group == "both")
    grouped }
  let path := operands.headD "-"
  match ← openOperand path with
  | .error e => c.die 1 s!"{shownName path}: {e.text}"
  | .ok fd =>
      let target ←
        match operands[1]? with
        | none | some "-" => pure 1
        | some path =>
            match ← number (.openFile path (.write 0o666)) with
            | .ok fd => pure fd
            | .error e => c.die 1 s!"{shownName path}: {e.text}"
      let show_ (data : Bytes) : Action Unit := do
        if let some e ← write target data then c.die 1 s!"write error: {e.text}"
      let pass (state : Bool × List Bytes) (record : Bytes) :
          Action ((Bool × List Bytes) × Bool) := do
        let line := chomp u.terminator record
        match state with
        | (first, []) => return ((first, [line]), false)
        | (first, last :: before) =>
            if u.key last == u.key line then return ((first, line :: last :: before), false)
            let out := u.group first (last :: before).reverse
            show_ out
            return ((first && out.isEmpty, [line]), false)
      let ((first, last), e) ← forRecords fd u.terminator pass (true, [])
      if let some e := e then
        let shown := if path = "-" then "'-'" else quotedName path
        c.die 1 s!"error reading {shown}: {e.text}"
      if !last.isEmpty then
        show_ (u.group first last.reverse)
      return 0

/-! ## Common lines -/

/-- The columns of `comm`, and what stands between them. -/
structure CommStyle where
  shown : List Bool
  between : Bytes
  terminator : UInt8

/-- A line in its column. -/
def CommStyle.row (s : CommStyle) (column : Nat) (line : Bytes) : Bytes :=
  if s.shown.getD column true then
    let before := (s.shown.take column).filter id
    (before.map fun _ ↦ s.between).flatten ++ line ++ [s.terminator]
  else []

/-- Whether the order of lines is checked. -/
inductive OrderCheck where
  | never
  /-- Once a line has been found that only one file has. -/
  | late
  | always
  deriving DecidableEq, Repr

/-- What is left of one of two files, the two lines passed last, and whether it has
been found not to be in order. -/
structure CommFile where
  number : Nat
  rest : List Bytes
  last : Option Bytes
  lastButOne : Option Bytes
  disordered : Bool

/-- A comparison of two files under way: whether a line has been found that only one
of them has, and the number of rows in each column. -/
structure CommState where
  left : CommFile
  right : CommFile
  unpaired : Bool
  counts : List Nat

/-- Checks that one line comes before another. -/
def CommFile.check (c : Call) (checks : Bool) (always : Bool) (f : CommFile)
    (a b : Option Bytes) : Action CommFile := do
  match a, b with
  | some a, some b =>
      if !checks || f.disordered || (compareBytes a b).isLE then return f
      c.warn s!"file {f.number} is not in sorted order"
      if always then stop 1
      return { f with disordered := true }
  | _, _ => return f

/-- Goes on to the next line of a file.  At its end the last two lines are checked
again. -/
def CommFile.advance (c : Call) (checks : Bool) (always : Bool) (f : CommFile) :
    Action CommFile := do
  let passed := f.rest.head?
  let f := { f with rest := f.rest.drop 1, last := passed, lastButOne := f.last }
  match f.rest.head? with
  | some line => f.check c checks always passed (some line)
  | none => f.check c checks always f.lastButOne passed

/-- Writes the rows of two files, in order; `limit` bounds their number. -/
def CommStyle.rows (c : Call) (s : CommStyle) (order : OrderCheck) :
    Nat → CommState → Action CommState
  | 0, state => return state
  | limit + 1, state => do
      let go (column : Nat) (line : Bytes) : Action CommState := do
        c.put (s.row column line)
        let unpaired := state.unpaired || column != 2
        let checks := order = .always || order = .late && unpaired
        let advance (f : CommFile) (moves : Bool) : Action CommFile :=
          if moves then f.advance c checks (order = .always) else return f
        let left ← advance state.left (column != 1)
        let right ← advance state.right (column != 0)
        let counts := state.counts.modify column (· + 1)
        CommStyle.rows c s order limit ⟨left, right, unpaired, counts⟩
      match state.left.rest, state.right.rest with
      | [], [] => return state
      | a :: _, [] => go 0 a
      | [], b :: _ => go 1 b
      | a :: _, b :: _ =>
          match compareBytes a b with
          | .lt => go 0 a
          | .gt => go 1 b
          | .eq => go 2 b

/-- The delimiter that options of `comm` give; an empty one is a byte that is zero. -/
def commDelimiter : List String → Except Complaint Bytes
  | [] => .ok [9]
  | first :: rest =>
      if rest.any (· != first) then .error (.plain "multiple output delimiters specified")
      else .ok (if first.isEmpty then [0] else encode first)

/-- The program `comm`. -/
def commMain (c : Call) : Action Nat := do
  let (a, complaint) := c.readPartly [.letter '1', .letter '2', .letter '3', .word "check-order",
    .word "nocheck-order", (Choice.word "output-delimiter").valued, .word "total",
    .flag 'z' "zero-terminated"]
  let between ←
    match commDelimiter (a.values "output-delimiter") with
    | .ok between => pure between
    | .error complaint => c.reject 1 complaint
  c.rejectAny 1 complaint
  match a.operands with
  | [] => c.missingOperand
  | [one] => c.misuse 1 s!"missing operand after {quoted one}"
  | _ :: _ :: extra :: _ => c.extraOperand extra
  | [one, two] =>
      let terminator : UInt8 := if a.has "z" then 0 else 10
      let read (path : String) : Action (List Bytes) := do
        match ← openOperand path with
        | .error e => c.die 1 s!"{shownName path}: {e.text}"
        | .ok fd =>
            let (data, e) ← readAll fd
            if let some e := e then c.die 1 s!"{shownName path}: {e.text}"
            closeOperand path fd
            return linesOf terminator data
      let left ← read one
      let right ← read two
      let s : CommStyle :=
        ⟨[!a.has "1", !a.has "2", !a.has "3"], between, terminator⟩
      let order : OrderCheck :=
        match a.last? ["check-order", "nocheck-order"] with
        | some "check-order" => .always
        | some _ => .never
        | none => .late
      let file (number : Nat) (lines : List Bytes) : CommFile := ⟨number, lines, none, none, false⟩
      let state ← s.rows c order (left.length + right.length + 1)
        ⟨file 1 left, file 2 right, false, [0, 0, 0]⟩
      if a.has "total" then
        let cells := state.counts.map (digitsIn 10) ++ [encode "total"]
        c.put ((cells.intersperse s.between).flatten ++ [terminator])
      if state.left.disordered || state.right.disordered then
        c.die 1 "input is not in sorted order"
      return 0

end PipeShell.Userland

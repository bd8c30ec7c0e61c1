import PipeShell.Userland.Making
import PipeShell.Userland.NameStyles
import PipeShell.Userland.Sizes
import PipeShell.Userland.SortKeys
import PipeShell.Userland.Wildcards

/-!
# Listing files

The program `ls`, which shows the operands that are not directories first, then what is
in each directory under a title of its own, and the program `dir`, which differs from it in
what it does if nothing else is asked for.
-/

namespace PipeShell.Userland

open PipeShell.Userland.Action

/-- How names are ordered. -/
inductive ListOrder where
  | byName
  | bySize
  | byAge
  | byExtension
  | byVersion
  | byWidth
  | none
  deriving DecidableEq, Repr

/-- How names are laid out. -/
inductive ListLayout where
  | lines
  /-- In columns, down each of them or across all of them. -/
  | columns (down : Bool)
  | commas
  | long
  deriving DecidableEq, Repr

/-- Which marks are put behind names. -/
inductive ListMarks where
  | none
  | slashes
  | types
  | all
  deriving DecidableEq, Repr

/-- Which symbolic links are followed. -/
inductive LinkFollowing where
  | never
  | operands
  /-- Those among the operands that lead to directories. -/
  | directories
  | always
  deriving DecidableEq, Repr

/-- What `ls` shows, and how. -/
structure ListStyle where
  hidden : Bool
  /-- Whether a directory and the one it stands in are among what it holds. -/
  dots : Bool
  directories : Bool
  recursive : Bool
  reversed : Bool
  order : ListOrder
  /-- Whether directories come before other files. -/
  grouped : Bool
  layout : ListLayout
  marks : ListMarks
  names : NameStyle
  /-- Whether bytes that cannot be printed are shown as question marks. -/
  veiled : Bool
  following : LinkFollowing
  /-- The width of a line; 0 stands for a width without end. -/
  width : Nat
  /-- The distance of the tab stops; 0 stands for none. -/
  tab : Nat
  /-- The patterns of names that are left out. -/
  ignored : List Bytes
  /-- The patterns of names that are left out unless hidden ones are shown. -/
  unshown : List Bytes
  ending : UInt8
  titled : Bool

/-- A name to be shown. -/
structure Listed where
  name : String
  path : String
  facts : Option Facts
  /-- Whether it leads to a directory. -/
  leads : Bool

namespace ListStyle

/-- Shows a name; `also` are bytes that are set off though they are plain. -/
def showBytes (style : ListStyle) (also : Bytes) (name : String) : Bytes :=
  let shown := style.names.display also (encode name)
  if style.veiled && style.names.isRaw then shown.map fun b ↦ if isPrintable b then b else 0x3F
  else shown

/-- The bytes that are set off in names. -/
def setOff (style : ListStyle) : Bytes :=
  let blank : Bytes := if style.names = .escape then [32] else []
  match style.marks with
  | .types => blank ++ [0x2A, 0x3D, 0x3E, 0x40, 0x7C]
  | .all => blank ++ [0x3D, 0x3E, 0x40, 0x7C]
  | _ => blank

/-- Shows a name. -/
def showName (style : ListStyle) (name : String) : Bytes :=
  style.showBytes style.setOff name

/-- Shows the name of a directory above what is in it. -/
def showTitle (style : ListStyle) (name : String) : Bytes :=
  style.showBytes (0x3A :: style.setOff) name

/-- The mark behind a name. -/
def mark (style : ListStyle) (f : Option Facts) : Bytes :=
  match style.marks, f with
  | .none, _ | _, .none => []
  | marks, some f =>
      match f.kind with
      | .directory => [0x2F]
      | .link => if marks = .slashes then [] else [0x40]
      | .pipe => if marks = .slashes then [] else [0x7C]
      | .regular => if marks = .all && f.permissions &&& 0o111 ≠ 0 then [0x2A] else []
      | .device => []

/-- A name as it is shown, with its mark, and its width. -/
def cell (style : ListStyle) (entry : Listed) : Bytes × Nat :=
  let shown := style.showName entry.name ++ style.mark entry.facts
  (shown, (shown.filter isPrintable).length)

/-- Names as they are shown.  Among names in quotes the other ones are moved to the right. -/
def cells (style : ListStyle) (entries : List Listed) : List (Bytes × Nat) :=
  let shifts := style.names.outdents &&
    match style.layout with
    | .lines | .commas => false
    | .long => true
    | .columns _ => 0 < style.width
  let isQuoted (entry : Listed) : Bool := style.showName entry.name != encode entry.name
  if shifts && entries.any isQuoted then
    entries.map fun entry ↦
      let (shown, width) := style.cell entry
      if isQuoted entry then (shown, width) else (32 :: shown, width + 1)
  else entries.map style.cell

/-- The part of a name behind its last point. -/
def extension (name : String) : Bytes :=
  let bytes := encode name
  let tail := (bytes.reverse.takeWhile (· != 0x2E)).reverse
  if tail.length = bytes.length then [] else 0x2E :: tail

/-- The order of two names. -/
def comparison (style : ListStyle) (a b : Listed) : Ordering :=
  let byName := compareBytes (encode a.name) (encode b.name)
  let number (f : Facts → Nat) (e : Listed) : Nat := e.facts.elim 0 f
  match style.order with
  | .byName | .none => byName
  | .bySize => (compare (number (·.size) b) (number (·.size) a)).then byName
  | .byAge => (compare (number (·.number) b) (number (·.number) a)).then byName
  | .byExtension => (compareBytes (extension a.name) (extension b.name)).then byName
  | .byVersion => (compareVersions (encode a.name) (encode b.name)).then byName
  | .byWidth => (compare (style.cell a).2 (style.cell b).2).then byName

/-- Names in their order. -/
def sorted (style : ListStyle) (entries : List Listed) : List Listed :=
  if style.order = .none then entries
  else
    let entries := entries.mergeSort fun a b ↦ style.comparison a b != .gt
    let entries := if style.reversed then entries.reverse else entries
    if style.grouped then entries.filter (·.leads) ++ entries.filter (!·.leads) else entries

/-- The widths of columns, if there are so many of them; nothing, if they do not
fit. -/
def columnWidths? (style : ListStyle) (down : Bool) (cells : List Nat) (count : Nat) :
    Option (List Nat) :=
  let rows := (cells.length + count - 1) / count
  let column (i : Nat) : Nat := if down then i / rows else i % count
  let width (c : Nat) : Nat :=
    (cells.zipIdx.filter fun (_, i) ↦ column i = c).foldl
      (fun w (size, _) ↦ max w (if c + 1 = count then size else size + 2)) 3
  let widths := (List.range count).map width
  if widths.foldl (· + ·) 0 < style.width then some widths else none

/-- Blanks from one place of a line to another, in tabs where they fit. -/
def indent (tab place : Nat) : Nat → Nat → Bytes
  | 0, _ => []
  | limit + 1, here =>
      if place ≤ here then []
      else if tab ≠ 0 && (here + 1) / tab < place / tab then
        9 :: indent tab place limit (here + tab - here % tab)
      else 32 :: indent tab place limit (here + 1)

/-- Names in lines, set off by a byte and a blank. -/
def inLines (style : ListStyle) (between : UInt8) (cells : List (Bytes × Nat)) : Bytes :=
  let step (state : Bytes × Nat × Bool) (cell : Bytes × Nat) : Bytes × Nat × Bool :=
    let (out, place, first) := state
    if first then (cell.1, cell.2, false)
    else if style.width = 0 || place + cell.2 + 2 < style.width then
      (out ++ [between, 32] ++ cell.1, place + 2 + cell.2, false)
    else (out ++ [between, style.ending] ++ cell.1, cell.2, false)
  (cells.foldl step ([], 0, true)).1 ++ [style.ending]

/-- Names in columns. -/
def inColumns (style : ListStyle) (down : Bool) (cells : List (Bytes × Nat)) : Bytes :=
  let sizes := cells.map (·.2)
  let most := min ((style.width + 2) / 3) cells.length
  let found := (List.range most).reverse.findSome? fun n ↦
    (style.columnWidths? down sizes (n + 1)).map fun widths ↦ (n + 1, widths)
  let (count, widths) := found.getD (1, [0])
  let rows := (cells.length + count - 1) / count
  let row (r : Nat) : Bytes :=
    let places := (List.range count).map fun c ↦ if down then r + c * rows else r * count + c
    let shown := (places.filterMap (cells[·]?)).zip widths
    let step (state : Bytes × Nat × Nat) (cell : (Bytes × Nat) × Nat) : Bytes × Nat × Nat :=
      let (out, here, start) := state
      let ((text, size), width) := cell
      (out ++ indent style.tab start (start + 1) here ++ text, start + size, start + width)
    (shown.foldl step ([], 0, 0)).1 ++ [style.ending]
  (List.range rows).flatMap row

/-- The line of a name in a long listing. -/
def longLine (style : ListStyle) (width : Nat) (entry : Listed) (cell : Bytes)
    (target : Option String) : Bytes :=
  let (kind, permissions, size) :=
    match entry.facts with
    | none => ("?", "?????????", 0)
    | some f =>
        let letter := match f.kind with
          | .regular => "-"
          | .directory => "d"
          | .link => "l"
          | .device => "c"
          | .pipe => "p"
        (letter, permissionLetters f.permissions, f.size)
  let arrow := match target with
    | some target => encode " -> " ++ style.showName target
    | none => []
  encode s!"{kind}{permissions} 1 root root " ++ padded width size ++ encode " Jan  1 00:00 " ++
    cell ++ arrow ++ [style.ending]

/-- Names as they are laid out. -/
def layOut (style : ListStyle) (entries : List (Listed × Option String)) : Bytes :=
  let cells := style.cells (entries.map (·.1))
  if cells.isEmpty then []
  else
    match style.layout with
    | .lines => cells.flatMap (·.1 ++ [style.ending])
    | .columns down => if style.width = 0 then style.inLines 32 cells else style.inColumns down cells
    | .commas => style.inLines 0x2C cells
    | .long =>
        let sizes := entries.map fun (entry, _) ↦ (digitsIn 10 (entry.facts.elim 0 (·.size))).length
        let width := sizes.foldl max 1
        (entries.zip cells).flatMap fun ((entry, target), cell) ↦
          style.longLine width entry cell.1 target

/-- Whether what is shown depends on more than the names. -/
def asksForFacts (style : ListStyle) : Bool :=
  style.recursive || style.marks ≠ .none || style.layout = .long || style.order = .bySize ||
    style.order = .byAge || style.grouped || style.following = .always

/-- Whether a name matches one of some patterns; a point in front has to be written. -/
def matchesOne (name : Bytes) (patterns : List Bytes) : Bool :=
  patterns.any fun pattern ↦
    (name.head? != some 0x2E || pattern.head? == some 0x2E || pattern.take 2 == [0x5C, 0x2E]) &&
      matchesPattern pattern name

/-- Whether a name is left out. -/
def leavesOut (style : ListStyle) (name : String) : Bool :=
  name.startsWith "." && !style.hidden || matchesOne (encode name) style.ignored ||
    !style.hidden && matchesOne (encode name) style.unshown

end ListStyle

/-- A name and what is known of it. -/
def listed (style : ListStyle) (name path : String) (f : Option Facts) : Action Listed := do
  let leads ←
    if style.grouped && f.any (·.kind = .link) then do
      pure ((← facts (.facts path true)).toOption.any (·.kind = .directory))
    else pure (f.any (·.kind = .directory))
  return ⟨name, path, f, leads⟩

/-- Shows names. -/
def showListed (c : Call) (style : ListStyle) (entries : List Listed) : Action Unit := do
  let mut rows := []
  for entry in entries do
    let target ←
      if style.layout = .long && entry.facts.any (·.kind = .link) then do
        match ← ask (.readLink entry.path) with
        | .text target => pure (some target)
        | _ => pure none
      else pure none
    rows := rows ++ [(entry, target)]
  c.putOr 2 "write error" (style.layOut rows)

/-- Shows what is in a directory, and then the directories in it if they are to be
shown; `depth` bounds how far down.  The worst code met is told. -/
def listDirectory (c : Call) (style : ListStyle) : Nat → Bool → Bool → String → Action Nat
  | depth, first, operand, path => do
      match ← names (.list path) with
      | .error e =>
          c.warn s!"cannot open directory {quotedName path}: {e.text}"
          return if operand then 2 else 1
      | .ok entries =>
          let entries := if style.dots then [".", ".."] ++ entries else entries
          let entries := entries.filter fun name ↦ !style.leavesOut name
          let mut code := 0
          let mut found : List Listed := []
          for name in entries do
            let inner := inDirectory path name
            if style.asksForFacts then
              match ← facts (.facts inner (style.following = .always)) with
              | .ok f => found := found ++ [← listed style name inner (some f)]
              | .error e =>
                  c.warn s!"cannot access {quotedName inner}: {e.text}"
                  code := 1
                  found := found ++ [← listed style name inner none]
            else found := found ++ [← listed style name inner none]
          let shown := style.sorted found
          if style.titled then
            c.putOr 2 "write error"
              ((if first then [] else [10]) ++ style.showTitle path ++ encode ":\n")
          if style.layout = .long then c.putOr 2 "write error" (encode "total 0\n")
          showListed c style shown
          match style.recursive, depth with
          | true, depth + 1 =>
              for entry in shown do
                if entry.facts.any (·.kind = .directory) && entry.name ≠ "." && entry.name ≠ ".." then
                  code := max code (← listDirectory c style depth false false entry.path)
              return code
          | _, _ => return code

/-- What is known of an operand. -/
def operandFacts (style : ListStyle) (path : String) : Action (Except Errno Facts) := do
  match style.following with
  | .never => facts (.facts path false)
  | .always => facts (.facts path true)
  | following =>
      match ← facts (.facts path true) with
      | .ok f =>
          if following = .operands || f.kind = .directory then return .ok f
          facts (.facts path false)
      | .error _ => facts (.facts path false)

/-- The width of a line that a text gives: a number, in octal or hexadecimal if it begins that
way. -/
def lineWidth? (text : String) : Option Nat :=
  let bytes := (encode text).dropWhile isSpace
  let bytes := if bytes.head? == some 0x2B then bytes.drop 1 else bytes
  let n? : Option Nat :=
    match bytes with
    | 48 :: 0x78 :: c :: rest | 48 :: 0x58 :: c :: rest =>
        if (c :: rest).all isHexDigit then some (valueOf 16 (c :: rest)) else none
    | 48 :: rest => if rest.all isOctalDigit then some (valueOf 8 rest) else none
    | bytes => if !bytes.isEmpty && bytes.all isDigit then some (valueOf 10 bytes) else none
  n?.map fun n ↦ if n < halfModulus then n else 0

/-- The options of `ls`. -/
def lsChoices : List Choice :=
  let whens := [["always", "yes", "force"], ["never", "no", "none"], ["auto", "tty", "if-tty"]]
  let width := (Choice.flag 'w' "width").valued.checked fun text ↦
    if (lineWidth? text).isSome then none
    else some (.plain s!"invalid line width: {quoted text}")
  let tab := (Choice.flag 'T' "tabsize").valued.checked
    (sizeFault? "invalid tab size" "" 0 (halfModulus - 1))
  "CDSUXZ1cfgklmoptuvx".toList.map Choice.letter ++
    [.flag 'a' "all", .flag 'A' "almost-all", .flag 'b' "escape", .flag 'B' "ignore-backups",
      .flag 'd' "directory", .letter 'F', (Choice.word "classify").maybeValued.among whens,
      .word "file-type", .flag 'G' "no-group", .flag 'h' "human-readable", .word "si",
      .flag 'H' "dereference-command-line", .word "dereference-command-line-symlink-to-dir",
      (Choice.word "hide").valued, (Choice.flag 'I' "ignore").valued, .flag 'i' "inode",
      (Choice.word "indicator-style").valued.among
        [["none"], ["slash"], ["file-type"], ["classify"]],
      (Choice.word "kibibytes").meaning "k", .flag 'L' "dereference", .flag 'N' "literal",
      .flag 'n' "numeric-uid-gid", .flag 'q' "hide-control-chars", .word "show-control-chars",
      .flag 'Q' "quote-name",
      (Choice.word "quoting-style").valued.among
        [["literal"], ["shell"], ["shell-always"], ["shell-escape"], ["shell-escape-always"], ["c"],
          ["c-maybe"], ["escape"], ["locale"], ["clocale"]],
      .flag 'r' "reverse", .flag 'R' "recursive", .flag 's' "size",
      (Choice.word "sort").valued.among
        [["none"], ["time"], ["size"], ["extension"], ["version"], ["width"]],
      (Choice.word "time").valued.among
        [["atime", "access", "use"], ["ctime", "status"], ["mtime", "modification"],
          ["birth", "creation"]],
      (Choice.word "time-style").valued,
      (Choice.word "format").valued.among
        [["verbose", "long"], ["commas"], ["horizontal", "across"], ["vertical"],
          ["single-column"]],
      .word "full-time", .word "author", width, tab, .word "group-directories-first",
      .word "zero", (Choice.word "context").meaning "Z", (Choice.word "dired").meaning "D",
      (Choice.word "color").maybeValued.among whens,
      (Choice.word "hyperlink").maybeValued.among whens, (Choice.word "block-size").valued]

/-- The layout that options ask for. -/
def layoutOf (options : List (String × Option String)) : Option ListLayout :=
  let step (layout : Option ListLayout) (o : String × Option String) : Option ListLayout :=
    match o with
    | ("C", _) | ("format", some "vertical") => some (.columns true)
    | ("x", _) | ("format", some "horizontal") => some (.columns false)
    | ("m", _) | ("format", some "commas") => some .commas
    | ("format", some "verbose") => some .long
    | ("format", _) => some .lines
    | ("1", _) | ("zero", _) => if layout = some .long then layout else some .lines
    | (key, _) => if ["l", "g", "n", "o", "full-time"].contains key then some .long else layout
  options.foldl step none

/-- The marks that options ask for. -/
def marksOf (options : List (String × Option String)) : ListMarks :=
  let step (marks : ListMarks) (o : String × Option String) : ListMarks :=
    match o with
    | ("F", _) | ("classify", none) | ("classify", some "always") => .all
    | ("p", _) | ("indicator-style", some "slash") => .slashes
    | ("file-type", _) | ("indicator-style", some "file-type") => .types
    | ("indicator-style", some "classify") => .all
    | ("indicator-style", _) => .none
    | _ => marks
  options.foldl step .none

/-- The order that options ask for. -/
def orderOf (a : Arguments) (long : Bool) : ListOrder :=
  match a.last? ["S", "t", "U", "X", "v", "f", "sort"] with
  | some "S" => .bySize
  | some "t" => .byAge
  | some "X" => .byExtension
  | some "v" => .byVersion
  | some "sort" =>
      match a.value? "sort" with
      | some "time" => .byAge
      | some "size" => .bySize
      | some "extension" => .byExtension
      | some "version" => .byVersion
      | some "width" => .byWidth
      | _ => .none
  | some _ => .none
  | none => if !long && (a.has "c" || a.has "u" || a.has "time") then .byAge else .byName

/-- The way to show names that options ask for. -/
def namesOf? (a : Arguments) : Option NameStyle :=
  match a.last? ["b", "Q", "N", "quoting-style", "zero"] with
  | some "b" => some .escape
  | some "Q" => some (.string true)
  | some "quoting-style" =>
      match a.value? "quoting-style" with
      | some "shell" => some (.shell false)
      | some "shell-always" => some (.shell true)
      | some "shell-escape" => some (.shellEscape false)
      | some "shell-escape-always" => some (.shellEscape true)
      | some "c-maybe" => some (.string false)
      | some "escape" => some .escape
      | some "locale" => some .locale
      | some "literal" => some .literal
      | _ => some (.string true)
  | some _ => some .literal
  | none => none

/-- The style that the options ask for. -/
def listStyle (a : Arguments) (layout : ListLayout) (names : NameStyle) : ListStyle :=
  let layout := (layoutOf a.options).getD layout
  let marks := marksOf a.options
  let links := "dereference-command-line-symlink-to-dir"
  let following : LinkFollowing :=
    match a.last? ["L", "H", links] with
    | some "L" => .always
    | some "H" => .operands
    | some _ => .directories
    | none => if a.has "d" || layout = .long || marks = .all then .never else .directories
  let all := a.has "a" || a.has "f"
  { hidden := all || a.has "A"
    dots := a.last? ["a", "A", "f"] != some "A" && all
    directories := a.has "d"
    recursive := a.has "R" && !a.has "d"
    reversed := a.has "r"
    order := orderOf a (layout = .long)
    grouped := a.has "group-directories-first"
    layout
    marks
    names := (namesOf? a).getD names
    veiled := a.last? ["q", "show-control-chars", "zero"] == some "q"
    following
    width := ((a.value? "w").bind lineWidth?).getD 80
    tab := ((a.value? "T").map (sizeOf "")).getD 8
    ignored := (a.values "I").map encode ++ if a.has "B" then [encode "*~", encode ".*~"] else []
    unshown := (a.values "hide").map encode
    ending := if a.has "zero" then 0 else 10
    titled := (a.has "R" || 1 < a.operands.length) && !a.has "d" }

/-- Lists files in a layout and with names that the options may change. -/
def listMain (layout : ListLayout) (names : NameStyle) (c : Call) : Action Nat := do
  let a ← c.read lsChoices 2
  let style := listStyle a layout names
  let mut code := 0
  let mut files : List Listed := []
  let mut directories : List Listed := []
  for path in (if a.operands.isEmpty then ["."] else a.operands) do
    match ← operandFacts style path with
    | .error e =>
        c.warn s!"cannot access {quotedName path}: {e.text}"
        code := 2
    | .ok f =>
        let entry ← listed style path path (some f)
        if f.kind = .directory && !style.directories then directories := directories ++ [entry]
        else files := files ++ [entry]
  showListed c style (style.sorted files)
  let mut first := files.isEmpty
  for directory in style.sorted directories do
    code := max code (← listDirectory c style depthLimit first true directory.path)
    first := false
  return code

/-- The program `ls`. -/
def lsMain : Call → Action Nat :=
  listMain .lines .literal

/-- The program `dir`. -/
def dirMain : Call → Action Nat :=
  listMain (.columns true) .escape

end PipeShell.Userland

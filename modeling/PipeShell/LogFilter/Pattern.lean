/-!
# Patterns of log filters

A field of a log directive can ask for a pattern.  No pattern is ever matched
here, but one that cannot be compiled is complained of, and there are two ways
to be wrong: not to be a pattern at all, and to ask for the boundaries of words.
Nothing is known of classes and cases beyond ASCII, so what needs them is not a
pattern either.
-/

namespace PipeShell.LogFilter

/-- Why a pattern cannot be compiled. -/
inductive PatternError where
  | malformed
  | wordBoundary
  deriving DecidableEq, Repr

def PatternError.message : PatternError → String
  | .malformed => "error building NFA"
  | .wordBoundary =>
      "unsupported regex feature for DFAs: cannot build DFAs for regexes with Unicode word " ++
        "boundaries; switch to ASCII word boundaries, or heuristically enable Unicode word " ++
        "boundaries or use a different regex engine"

namespace Pattern

/-- The settings that a pattern can change. -/
structure Flags where
  ignoresCase : Bool
  unicode : Bool
  deriving DecidableEq, Repr

/-- What has been read of a pattern. -/
structure Reading where
  flags : Flags
  /-- The flags to go back to behind each group that is open. -/
  groups : List Flags
  names : List String
  /-- Whether there is something that can be repeated. -/
  repeatable : Bool
  /-- Whether the boundary of a word is asked for. -/
  boundary : Bool

/-- A part of a pattern that is not a group. -/
inductive Atom where
  | literal (c : Char)
  /-- One of several characters. -/
  | set
  | assertion (ofWords : Bool)
  deriving DecidableEq, Repr

def isHex (c : Char) : Bool :=
  c.isDigit || 'a' ≤ c.toLower && c.toLower ≤ 'f'

/-- The value of hexadecimal digits. -/
def hexNumber (digits : List Char) : Nat :=
  digits.foldl (fun n c ↦
    n * 16 + (if c.isDigit then c.toNat - 48 else c.toLower.toNat - 87)) 0

/-- The character of so many hexadecimal digits. -/
def hexChar (unicode : Bool) (width : Nat) (text : List Char) : Option (Atom × List Char) :=
  let digits := text.take width
  let n := hexNumber digits
  if digits.length < width || !digits.all isHex then none
  else if n < 0xD800 || 0xDFFF < n && n < 0x110000 then
    if !unicode && width = 2 && 0x7F < n then none
    else some (.literal (Char.ofNat n), text.drop width)
  else none

/-- What a backslash stands for, given what follows it. -/
def escape (unicode : Bool) (text : List Char) : Option (Atom × List Char) :=
  match text with
  | [] => none
  | c :: rest =>
      if c == 'x' then hexChar unicode 2 rest
      else if c == 'u' then hexChar unicode 4 rest
      else if c == 'U' then hexChar unicode 8 rest
      else if "dsw".contains c then if unicode then none else some (.set, rest)
      else if c == 'A' || c == 'z' then some (.assertion false, rest)
      else if "bB<>".contains c then some (.assertion true, rest)
      else if "aftnrv".contains c then some (.literal c, rest)
      else if c.toNat < 0x80 && !c.isAlphanum then some (.literal c, rest)
      else none

/-- The names of the classes that can stand inside brackets. -/
def classNames : List String :=
  ["alnum", "alpha", "ascii", "blank", "cntrl", "digit", "graph", "lower", "print", "punct", "space",
    "upper", "word", "xdigit"]

/-- A named class inside brackets, behind the opening bracket. -/
def namedClass? : List Char → Option (List Char)
  | ':' :: text =>
      let text := if text.head? == some '^' then text.drop 1 else text
      let name := text.takeWhile (· != ':')
      match text.drop name.length with
      | ':' :: ']' :: rest => if classNames.contains (String.ofList name) then some rest else none
      | _ => none
  | _ => none

/-- What may stand right behind the opening of brackets: the sign that negates
them, dashes, and a closing bracket that closes nothing. -/
def openBrackets (text : List Char) : Bool × List Char :=
  let negated := text.head? == some '^'
  let text := if negated then text.drop 1 else text
  let dashes := text.takeWhile (· == '-')
  let text := text.drop dashes.length
  (negated, if dashes.isEmpty && text.head? == some ']' then text.drop 1 else text)

/-- One end of a range inside brackets. -/
def bracketItem (flags : Flags) (text : List Char) : Option (Option Char × List Char) :=
  match text with
  | [] => none
  | '\\' :: rest =>
      match escape flags.unicode rest with
      | some (.literal c, rest) => some (some c, rest)
      | some (.set, rest) => some (none, rest)
      | _ => none
  | c :: rest => if flags.unicode || c.toNat < 0x80 then some (some c, rest) else none

/-- Reads brackets, `depth` of them inside one another, to their end. -/
def brackets (flags : Flags) : Nat → Nat → List Char → Option (List Char)
  | 0, _, _ => none
  | limit + 1, depth, text =>
      match text with
      | [] => none
      | ']' :: rest => if depth ≤ 1 then some rest else brackets flags limit (depth - 1) rest
      | '[' :: rest =>
          match namedClass? rest with
          | some rest => brackets flags limit depth rest
          | none =>
              let (negated, rest) := openBrackets rest
              if negated && !flags.unicode then none else brackets flags limit (depth + 1) rest
      | '&' :: '&' :: rest | '-' :: '-' :: rest | '~' :: '~' :: rest =>
          brackets flags limit depth rest
      | _ =>
          match bracketItem flags text with
          | none => none
          | some (first, rest) =>
              match rest with
              | '-' :: c :: _ =>
                  if c == ']' || c == '-' then brackets flags limit depth rest
                  else
                    match first, bracketItem flags (rest.drop 1) with
                    | some a, some (some b, rest) =>
                        if b < a then none else brackets flags limit depth rest
                    | _, _ => none
              | _ => brackets flags limit depth rest

/-- Reads the letters that set flags, up to the colon or parenthesis behind
them. -/
def readFlags (flags : Flags) (negated : Bool) (seen : List Char) :
    List Char → Option (Flags × Char × List Char)
  | [] => none
  | c :: rest =>
      if c == ':' || c == ')' then
        if seen.head? == some '-' then none else some (flags, c, rest)
      else if seen.contains c then none
      else if c == '-' then readFlags flags true (c :: seen) rest
      else if !"imsUuxR".contains c then none
      else
        let flags :=
          if c == 'i' then { flags with ignoresCase := !negated }
          else if c == 'u' then { flags with unicode := !negated }
          else flags
        readFlags flags negated (c :: seen) rest

/-- The name of a group, up to the angle bracket behind it. -/
def groupName? (text : List Char) : Option (String × List Char) :=
  let name := text.takeWhile (· != '>')
  let fits (c : Char) : Bool := c.isAlpha || c == '_' || 0x80 ≤ c.toNat
  let goesOn (c : Char) : Bool := fits c || c.isDigit || ".[]".contains c
  match name, text.drop name.length with
  | c :: more, '>' :: rest =>
      if fits c && more.all goesOn then some (String.ofList name, rest) else none
  | _, _ => none

namespace Reading

/-- Goes on behind something that can be repeated. -/
def behind (s : Reading) : Reading :=
  { s with repeatable := true }

/-- Opens a group. -/
def opened (s : Reading) : Reading :=
  { s with groups := s.flags :: s.groups, repeatable := false }

end Reading

/-- What stands behind an opening parenthesis, up to what the group holds. -/
def openGroup (s : Reading) (text : List Char) : Option (Reading × List Char) :=
  let named (text : List Char) : Option (Reading × List Char) :=
    match groupName? text with
    | some (name, rest) =>
        if s.names.contains name then none
        else some ({ s.opened with names := name :: s.names }, rest)
    | none => none
  match text with
  | '?' :: 'P' :: '<' :: rest => named rest
  | '?' :: '<' :: rest => named rest
  | '?' :: ')' :: _ => none
  | '?' :: rest =>
      match readFlags s.flags false [] rest with
      | some (flags, ':', rest) => some ({ s.opened with flags }, rest)
      | some (flags, _, rest) => some ({ s with flags, repeatable := false }, rest)
      | none => none
  | _ => some (s.opened, text)

/-- Reads a pattern, or the rest of one. -/
def scan : Nat → Reading → List Char → Option Reading
  | 0, _, _ => none
  | limit + 1, s, text =>
      let cased := s.flags.ignoresCase && s.flags.unicode
      match text with
      | [] => if s.groups.isEmpty then some s else none
      | '(' :: rest => (openGroup s rest).bind fun (s, rest) ↦ scan limit s rest
      | ')' :: rest =>
          match s.groups with
          | [] => none
          | flags :: groups => scan limit { s.behind with flags, groups } rest
      | '|' :: rest => scan limit { s with repeatable := false } rest
      | '[' :: rest =>
          let (negated, rest) := openBrackets rest
          if cased || negated && !s.flags.unicode then none
          else (brackets s.flags (rest.length + 1) 1 rest).bind (scan limit s.behind)
      | '{' :: _ => none
      | '*' :: rest | '+' :: rest | '?' :: rest =>
          if !s.repeatable then none
          else scan limit s (if rest.head? == some '?' then rest.drop 1 else rest)
      | '.' :: rest => if s.flags.unicode then scan limit s.behind rest else none
      | '^' :: rest | '$' :: rest => scan limit s.behind rest
      | '\\' :: rest =>
          match escape s.flags.unicode rest with
          | none => none
          | some (.literal _, rest) | some (.set, rest) =>
              if cased then none else scan limit s.behind rest
          | some (.assertion ofWords, rest) =>
              scan limit { s.behind with boundary := s.boundary || ofWords && s.flags.unicode } rest
      | _ :: rest => if cased then none else scan limit s.behind rest

/-- What is wrong with a pattern, if anything is. -/
def fault? (text : String) : Option PatternError :=
  match scan (text.length + 1) ⟨⟨false, true⟩, [], [], false, false⟩ text.toList with
  | none => some .malformed
  | some s => if s.boundary then some .wordBoundary else none

end Pattern

end PipeShell.LogFilter

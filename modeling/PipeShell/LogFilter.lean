import PipeShell.LogFilter.Pattern
import PipeShell.Text.Utf8

/-!
# Log filters

A log filter is a row of directives, set off by commas: each names a level, or
what it is for and then a level.  The shell logs nothing that a filter could let
through, so all that can be seen of one is the complaints about directives that
cannot be read.
-/

namespace PipeShell.LogFilter

/-- Why a directive cannot be read. -/
inductive DirectiveError where
  | malformed
  | level
  | field (e : PatternError)
  deriving DecidableEq, Repr

def DirectiveError.message : DirectiveError → String
  | .malformed => "invalid filter directive"
  | .level =>
      "error parsing level filter: expected one of \"off\", \"error\", \"warn\", \"info\", " ++
        "\"debug\", \"trace\", or a number 0-5"
  | .field e => s!"invalid field filter: {e.message}"

/-- Whether a character is a blank one. -/
def isBlank (c : Char) : Bool :=
  let n := c.toNat
  9 ≤ n && n ≤ 13 || [0x20, 0x85, 0xA0, 0x1680, 0x2028, 0x2029, 0x202F, 0x205F, 0x3000].contains n ||
    0x2000 ≤ n && n ≤ 0x200A

/-- A text without the blanks around it. -/
def trimmed (text : List Char) : List Char :=
  ((text.dropWhile isBlank).reverse.dropWhile isBlank).reverse

/-- Ranges of characters beyond ASCII that are neither letters nor digits. -/
def symbols : List (Nat × Nat) :=
  [(0x80, 0xA9), (0xAB, 0xB1), (0xB4, 0xB4), (0xB6, 0xB8), (0xBB, 0xBB), (0xBF, 0xBF), (0xD7, 0xD7),
    (0xF7, 0xF7), (0x2C2, 0x2C5), (0x2D2, 0x2DF), (0x300, 0x344), (0x2000, 0x206F), (0x20A0, 0x20FF),
    (0x2190, 0x245F), (0x2500, 0x2775), (0x2794, 0x2BFF), (0x3000, 0x3004), (0x3008, 0x3020),
    (0xE000, 0xF8FF), (0xFE00, 0xFE6F), (0xFF01, 0xFF0F), (0xFF1A, 0xFF20), (0xFF3B, 0xFF40),
    (0xFF5B, 0xFF65), (0xFFE0, 0xFFFF), (0x1F000, 0x1F0FF), (0x1F10D, 0x1F12F), (0x1F18A, 0x1FBEF)]

/-- Whether a directive can begin with a character. -/
def startsName (c : Char) : Bool :=
  "-:_".contains c || c.isAlphanum ||
    0x80 ≤ c.toNat && !symbols.any fun (first, last) ↦ first ≤ c.toNat && c.toNat ≤ last

/-- Checks the name or the number of a level. -/
def checkLevel (text : Bytes) : Except DirectiveError Unit :=
  let lower := text.map fun b ↦ if 65 ≤ b && b ≤ 90 then b + 32 else b
  let named := ["", "off", "error", "warn", "info", "debug", "trace"].any (encode · == lower)
  let digits := if text.head? == some 0x2B then text.drop 1 else text
  let number := digits.dropWhile (· == 48)
  let numbered := !digits.isEmpty && (number.isEmpty || number.length = 1 &&
    number.all fun b ↦ 49 ≤ b && b ≤ 53)
  if named || numbered then .ok () else .error .level

/-- Whether a text is a decimal number without a sign. -/
def isUnsigned (text : List Char) : Bool :=
  let lower := text.map Char.toLower
  let whole := lower.takeWhile Char.isDigit
  let rest := lower.drop whole.length
  let places := if rest.head? == some '.' then (rest.drop 1).takeWhile Char.isDigit else []
  let rest := if rest.head? == some '.' then rest.drop (places.length + 1) else rest
  let exponent :=
    match rest with
    | 'e' :: sign :: digits =>
        let digits := if sign == '+' || sign == '-' then digits else sign :: digits
        !digits.isEmpty && digits.all Char.isDigit
    | rest => rest.isEmpty
  ["inf", "infinity", "nan"].contains (String.ofList lower) ||
    !(whole.isEmpty && places.isEmpty) && exponent

/-- Checks the field of a directive: a name, and a value or a pattern for it. -/
def checkField (text : Bytes) : Except DirectiveError Unit := do
  if text.isEmpty then throw .malformed
  match ((Utf8.decode? text).getD "").splitOn "=" with
  | _ :: value :: _ =>
      let isNumber := value.startsWith "+" && isUnsigned (value.toList.drop 1)
      if let some e := if isNumber then none else Pattern.fault? value then throw (.field e)
  | _ => return ()

/-- Where the reading of a directive stands; the numbers are places in it. -/
inductive Place where
  | start
  | name
  | span
  | field (first : Nat)
  | fields
  | target
  | level (first : Nat)
  deriving DecidableEq, Repr

/-- Goes on behind one character of a directive, which stands at a place of it. -/
def Place.step (directive : Bytes) (p : Place) (i : Nat) (c : Char) :
    Except DirectiveError Place :=
  match p, c with
  | .start, '[' => .ok .span
  | .start, _ => if startsName c then .ok .name else .error .malformed
  | .name, '=' => .ok (.level (i + 1))
  | .name, '[' => .ok .span
  | .target, '=' => .ok (.level (i + 1))
  | .span, ']' => .ok .target
  | .span, '\x7b' => .ok (.field (i + 1))
  | .field first, '\x7d' => do
      checkField ((directive.drop first).take (i - first))
      return .fields
  | .fields, ']' => .ok .target
  | .name, _ | .span, _ | .field _, _ | .level _, _ => .ok p
  | .target, _ | .fields, _ => .error .malformed

/-- Reads the characters of a directive, the first of which stands at a place of
it. -/
def readFrom (directive : Bytes) (p : Place) (i : Nat) : List Char → Except DirectiveError Place
  | [] => .ok p
  | c :: rest => do
      let p ← p.step directive i c
      readFrom directive p (i + c.utf8Size) rest

/-- Checks a directive.  Blanks around it are passed over, but the places in it
are counted without those in front. -/
def checkDirective (text : String) : Except DirectiveError Unit := do
  let directive := encode text
  match ← readFrom directive .start 0 (trimmed text.toList) with
  | .name | .target => return ()
  | .level first => checkLevel (directive.drop first)
  | _ => throw .malformed

/-- The directives of a filter. -/
def directives (filter : String) : List String :=
  (filter.splitOn ",").filter (· ≠ "")

/-- Whether a filter can be read as a whole. -/
def isValid (filter : String) : Bool :=
  (directives filter).all fun text ↦ (checkDirective text).isOk

/-- What is told of a filter of which all that can be read is used: the complaints
about the rest. -/
def complaints (filter : String) : String :=
  let complaint (text : String) : String :=
    match checkDirective text with
    | .ok _ => ""
    | .error e => s!"ignoring \x60{text}\x60: {e.message}\n"
  String.join ((directives filter).map complaint)

end PipeShell.LogFilter

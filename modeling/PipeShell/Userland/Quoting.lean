import PipeShell.Text.Utf8

/-!
# Names in messages

A message shows a name so that a shell would read it back: as it is if it is
plain, and in quotes otherwise.  Other arguments are shown in quotes with the
escapes of a string.  Bytes that cannot be printed are always escaped.
-/

namespace PipeShell.Userland

/-- Whether a byte can be printed. -/
def isPrintable (b : UInt8) : Bool :=
  32 ≤ b && b ≤ 126

/-- The characters of some bytes, one for each. -/
def plainText (bytes : Bytes) : String :=
  String.ofList (bytes.map fun b ↦ Char.ofNat b.toNat)

/-- The three octal digits of a byte. -/
def octalDigits (b : UInt8) : String :=
  let digits := String.ofList (Nat.toDigits 8 b.toNat)
  "".pushn '0' (3 - digits.length) ++ digits

/-- The escape of a byte that cannot be printed. -/
def byteEscape (b : UInt8) : String :=
  match [(7, "\\a"), (8, "\\b"), (9, "\\t"), (10, "\\n"), (11, "\\v"), (12, "\\f"),
    (13, "\\r")].lookup b.toNat with
  | some text => text
  | none => "\\" ++ octalDigits b

/-- Whether a byte means the same inside the double quotes of a shell. -/
def isQuotable (first : Bool) (b : UInt8) : Bool :=
  let c := Char.ofNat b.toNat
  c.isAlphanum || "%+,-./:]_\x7b\x7d '".contains c || (first && "#~".contains c)

/-- Whether a byte can stand in a word of a shell without quotes. -/
def isPlain (first : Bool) (b : UInt8) : Bool :=
  isPrintable b && !" !\"$&()*;<=>[^\x60|'\\?".contains (Char.ofNat b.toNat) &&
    !(first && "#~".contains (Char.ofNat b.toNat))

/-- Checks every byte of a name, and whether it is the first one. -/
def allBytes (p : Bool → UInt8 → Bool) : Bytes → Bool
  | [] => true
  | b :: rest => p true b && rest.all (p false)

/-- The inside of a quoted name; `escaping` says whether escapes are being
written. -/
def quoteBytes (escaping : Bool) : Bytes → String
  | [] => ""
  | b :: rest =>
      if b == 0x27 then "'\\''" ++ quoteBytes false rest
      else if isPrintable b then
        (if escaping then "''" else "") ++ plainText [b] ++ quoteBytes false rest
      else (if escaping then "" else "'$'") ++ byteEscape b ++ quoteBytes true rest

/-- A name in quotes. -/
def quotedName (name : String) : String :=
  let bytes := encode name
  if bytes.contains 0x27 && allBytes isQuotable bytes then "\"" ++ name ++ "\""
  else "'" ++ quoteBytes false bytes ++ "'"

/-- A name, in quotes if it needs them. -/
def shownName (name : String) : String :=
  if name ≠ "" && name ≠ "\x7b" && name ≠ "\x7d" && allBytes isPlain (encode name) then name
  else quotedName name

/-- An argument in quotes. -/
def quoted (text : String) : String :=
  let escape (b : UInt8) : String :=
    if b == 0x27 || b == 0x5C then "\\" ++ plainText [b]
    else if isPrintable b then plainText [b]
    else byteEscape b
  "'" ++ String.join ((encode text).map escape) ++ "'"

end PipeShell.Userland

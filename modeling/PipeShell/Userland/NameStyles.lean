import PipeShell.Userland.Characters
import PipeShell.Userland.Quoting

/-!
# Names in lists

A list shows a name as it is, as a shell would read it back, or as a string with
escapes.  Quotes that a style does not ask for are left away from names that are plain.
-/

namespace PipeShell.Userland

/-- How names are shown. -/
inductive NameStyle where
  | literal
  /-- As a shell reads them. -/
  | shell (always : Bool)
  /-- As a shell reads them that knows escapes. -/
  | shellEscape (always : Bool)
  /-- As strings between double quotes. -/
  | string (always : Bool)
  /-- With escapes, but without quotes. -/
  | escape
  /-- As strings between single quotes. -/
  | locale
  deriving DecidableEq, Repr

namespace NameStyle

/-- A byte, behind a backslash if it is one of some, and as an escape if it cannot be
printed. -/
def escapeByte (also : Bytes) (b : UInt8) : Bytes :=
  if also.contains b then [0x5C, b]
  else if isPrintable b then [b]
  else encode (byteEscape b)

/-- Whether a name has to be in quotes for a shell. -/
def needsQuotes (escapes : Bool) (also name : Bytes) : Bool :=
  let isFree (first : Bool) (b : UInt8) : Bool :=
    if isPrintable b then isPlain first b && !also.contains b
    else !escapes && b != 9 && b != 10 && b != 13
  name.isEmpty || name == [0x7B] || name == [0x7D] || !allBytes isFree name

/-- A name in the quotes of a shell that knows no escapes. -/
def inShellQuotes (name : Bytes) : Bytes :=
  if name.contains 0x27 && allBytes isQuotable name then 0x22 :: name ++ [0x22]
  else
    let inner := name.flatMap fun b ↦ if b == 0x27 then encode "'\\''" else [b]
    0x27 :: inner ++ [0x27]

/-- Whether a string needs no quotes. -/
def isPlainString (also name : Bytes) : Bool :=
  name.all fun b ↦ isPrintable b && b != 0x22 && !also.contains b

/-- Shows a name; `also` are bytes that are set off though they are plain. -/
def display (style : NameStyle) (also name : Bytes) : Bytes :=
  match style with
  | .literal => name
  | .shell always =>
      if always || needsQuotes false also name then inShellQuotes name else name
  | .shellEscape always =>
      if always || needsQuotes true also name then encode (quotedName (nameOfBytes name)) else name
  | .string true => 0x22 :: name.flatMap (escapeByte (0x22 :: 0x5C :: also)) ++ [0x22]
  | .string false =>
      if isPlainString also name then name
      else 0x22 :: name.flatMap (escapeByte [0x22, 0x5C]) ++ [0x22]
  | .escape => name.flatMap (escapeByte (0x5C :: also))
  | .locale => 0x27 :: name.flatMap (escapeByte (0x27 :: 0x5C :: also)) ++ [0x27]

/-- Whether names that are in quotes stand out to the left of those that are not. -/
def outdents (style : NameStyle) : Bool :=
  style = .shell false || style = .shellEscape false || style = .string false

/-- Whether bytes that cannot be printed are shown as they are. -/
def isRaw (style : NameStyle) : Bool :=
  style = .literal || style = .shell false || style = .shell true

end NameStyle

end PipeShell.Userland

import PipeShell.Userland.Quoting

/-!
# Classes of bytes

Text is taken byte by byte, and what is not ASCII belongs to no class.
-/

namespace PipeShell.Userland

def isDigit (b : UInt8) : Bool :=
  48 ≤ b && b ≤ 57

def isUpper (b : UInt8) : Bool :=
  65 ≤ b && b ≤ 90

def isLower (b : UInt8) : Bool :=
  97 ≤ b && b ≤ 122

def isAlpha (b : UInt8) : Bool :=
  isUpper b || isLower b

def isAlnum (b : UInt8) : Bool :=
  isAlpha b || isDigit b

def isBlank (b : UInt8) : Bool :=
  b == 32 || b == 9

def isSpace (b : UInt8) : Bool :=
  b == 32 || (9 ≤ b && b ≤ 13)

def isControl (b : UInt8) : Bool :=
  b < 32 || b == 127

/-- Whether a byte leaves a mark. -/
def isGraph (b : UInt8) : Bool :=
  33 ≤ b && b ≤ 126

def isPunct (b : UInt8) : Bool :=
  isGraph b && !isAlnum b

def isOctalDigit (b : UInt8) : Bool :=
  48 ≤ b && b ≤ 55

/-- The value of a hexadecimal digit. -/
def hexValue? (b : UInt8) : Option Nat :=
  if isDigit b then some (b.toNat - 48)
  else if 97 ≤ b && b ≤ 102 then some (b.toNat - 87)
  else if 65 ≤ b && b ≤ 70 then some (b.toNat - 55)
  else none

def isHexDigit (b : UInt8) : Bool :=
  (hexValue? b).isSome

def toUpper (b : UInt8) : UInt8 :=
  if isLower b then b - 32 else b

def toLower (b : UInt8) : UInt8 :=
  if isUpper b then b + 32 else b

/-- Whether a byte is in the class of a name, if there is one of that name. -/
def classOf? (name : String) : Option (UInt8 → Bool) :=
  [("alnum", isAlnum), ("alpha", isAlpha), ("blank", isBlank), ("cntrl", isControl),
    ("digit", isDigit), ("graph", isGraph), ("lower", isLower), ("print", isPrintable),
    ("punct", isPunct), ("space", isSpace), ("upper", isUpper), ("xdigit", isHexDigit)].lookup name

/-- All bytes, in order. -/
def allByteValues : Bytes :=
  (List.range 256).map UInt8.ofNat

/-- The value of digits in a base; other bytes count as nothing. -/
def valueOf (base : Nat) (digits : Bytes) : Nat :=
  digits.foldl (fun n d ↦ n * base + (hexValue? d).getD 0) 0

/-- The number that a text stands for, if it is nothing but digits. -/
def decimal? (text : String) : Option Nat :=
  let bytes := encode text
  if bytes.isEmpty || !bytes.all isDigit then none else some (valueOf 10 bytes)

/-- The digits of a number in a base. -/
def digitsIn (base : Nat) (n : Nat) : Bytes :=
  encode (String.ofList (Nat.toDigits base n))

/-- A text behind as many spaces as it takes to make it so wide. -/
def padLeft (width : Nat) (text : Bytes) : Bytes :=
  List.replicate (width - text.length) 32 ++ text

/-- A text and as many spaces as it takes to make it so wide. -/
def padRight (width : Nat) (text : Bytes) : Bytes :=
  text ++ List.replicate (width - text.length) 32

/-- A number, padded on its left. -/
def padded (width : Nat) (n : Nat) : Bytes :=
  padLeft width (digitsIn 10 n)

/-- How two texts stand to each other, byte by byte. -/
def compareBytes : Bytes → Bytes → Ordering
  | [], [] => .eq
  | [], _ :: _ => .lt
  | _ :: _, [] => .gt
  | a :: as, b :: bs => if a == b then compareBytes as bs else if a < b then .lt else .gt

/-- Whether a text begins with another. -/
def beginsWith (text start : Bytes) : Bool :=
  start.isPrefixOf text

/-! ## Lines -/

/-- The records of a text, each with the byte that ends it if it has one. -/
def recordsOf (terminator : UInt8) (data : Bytes) : List Bytes :=
  let read (state : List Bytes × Bytes) (b : UInt8) : List Bytes × Bytes :=
    if b == terminator then ((b :: state.2).reverse :: state.1, []) else (state.1, b :: state.2)
  let (records, last) := data.foldl read ([], [])
  (if last.isEmpty then records else last.reverse :: records).reverse

/-- A record without the byte that ends it. -/
def chomp (terminator : UInt8) (record : Bytes) : Bytes :=
  if record.getLast? == some terminator then record.dropLast else record

/-- The records of a text, each without the byte that ends it. -/
def linesOf (terminator : UInt8) (data : Bytes) : List Bytes :=
  (recordsOf terminator data).map (chomp terminator)

/-- Lines, each with the byte that ends it. -/
def unlines (terminator : UInt8) (lines : List Bytes) : Bytes :=
  lines.flatMap (· ++ [terminator])

/-! ## Machine words -/

/-- The number of values that a machine word has. -/
def wordModulus : Nat := 0x10000000000000000

/-- The number of values of a machine word that are not negative if it has a sign. -/
def halfModulus : Nat := 0x8000000000000000

end PipeShell.Userland

import PipeShell.Userland.Options
import PipeShell.Userland.Characters

/-!
# Conditions

What can be asked about files, texts and numbers, and the program `test`, which is
also called `[`.  A row of few arguments is read by its length, and a longer one by
a grammar in which `-o` binds less than `-a`.
-/

namespace PipeShell.Userland

open PipeShell.Userland.Action

/-! ## Questions -/

/-- Whether a process may do with a file what a bit of its permissions grants. -/
def mayUse (path : String) (bit : Nat) : Action Bool := do
  match ← facts (.facts path true) with
  | .ok f => return f.permissions &&& bit ≠ 0
  | .error _ => return false

/-- Answers a question about a file. -/
def fileQuestion (letter : Char) (path : String) : Action Bool := do
  match letter with
  | 'r' => mayUse path 0o400
  | 'w' => mayUse path 0o200
  | 'x' => mayUse path 0o100
  | 'h' | 'L' => return (← facts (.facts path false)).toOption.any (·.kind = .link)
  | _ =>
      match ← facts (.facts path true) with
      | .error _ => return false
      | .ok f =>
          return match letter with
            | 'e' | 'O' | 'G' => true
            | 'f' => f.kind = .regular
            | 'd' => f.kind = .directory
            | 's' => f.size ≠ 0
            | 'c' => f.kind = .device
            | 'p' => f.kind = .pipe
            | 'u' => f.permissions &&& 0o4000 ≠ 0
            | 'g' => f.permissions &&& 0o2000 ≠ 0
            | 'k' => f.permissions &&& 0o1000 ≠ 0
            | _ => false

/-- The letters of questions about files. -/
def fileLetters : String := "abcdefghkLprsSuwxOGN"

/-- Answers a question about two files.  The number of a file tells its age. -/
def twoFilesQuestion (sign a b : String) : Action Bool := do
  match ← facts (.facts a true), ← facts (.facts b true) with
  | .ok f, .ok g =>
      return if sign = "-ef" then f.number = g.number
        else if sign = "-nt" then g.number < f.number
        else f.number < g.number
  | .ok _, .error _ => return sign = "-nt"
  | .error _, .ok _ => return sign = "-ot"
  | .error _, .error _ => return false

/-- The comparisons of numbers. -/
def compareNumbers? (sign : String) (a b : Int) : Option Bool :=
  [("-eq", a == b), ("-ne", a != b), ("-lt", decide (a < b)), ("-le", decide (a ≤ b)),
    ("-gt", decide (b < a)), ("-ge", decide (b ≤ a))].lookup sign

/-- The signs that stand between two arguments. -/
def twoSidedSigns : List String :=
  ["=", "==", "!=", "-eq", "-ne", "-lt", "-le", "-gt", "-ge", "-nt", "-ot", "-ef"]

/-! ## The program -/

/-- Part of a condition being read: what went wrong, or its value. -/
abbrev Testing := ExceptT String Action

namespace Testing

/-- The whole number that an argument stands for, with blanks around it. -/
def integer (text : String) : Testing Int := do
  let bytes := (encode text).dropWhile isBlank
  let signed := bytes.head? == some 0x2D || bytes.head? == some 0x2B
  let digits := (if signed then bytes.drop 1 else bytes).takeWhile isDigit
  let rest := (if signed then bytes.drop 1 else bytes).drop digits.length
  if digits.isEmpty || !rest.all isBlank then throw s!"invalid integer {quoted text}"
  let n := Int.ofNat (valueOf 10 digits)
  return if bytes.head? == some 0x2D then -n else n

/-- Compares the sides of a sign. -/
def twoSided (a sign b : String) : Testing Bool := do
  if sign = "=" || sign = "==" then return a = b
  if sign = "!=" then return a ≠ b
  if sign = "-nt" || sign = "-ot" || sign = "-ef" then
    return ← ExceptT.lift (twoFilesQuestion sign a b)
  let x ← integer a
  let y ← integer b
  return (compareNumbers? sign x y).getD false

/-- The letter of a question, if an argument could be one. -/
def letter? (text : String) : Option Char :=
  match text.toList with
  | ['-', c] => some c
  | _ => none

/-- The complaint about the end of the arguments. -/
def beyond {α : Type} (last : String) : Testing α :=
  throw s!"missing argument after {quoted last}"

/-- Asks a question about the first argument behind its letter. -/
def oneSided (letter : Char) (sign last : String) (args : List String) :
    Testing (Bool × List String) := do
  if !(fileLetters.contains letter && letter != 'a' || "nzt".contains letter) then
    throw s!"{quoted sign}: unary operator expected"
  match args with
  | [] => beyond last
  | text :: rest =>
      match letter with
      | 'n' => return (text ≠ "", rest)
      | 'z' => return (text = "", rest)
      | 't' =>
          let _ ← integer text
          return (false, rest)
      | _ => return (← ExceptT.lift (fileQuestion letter text), rest)

/-- Reads two arguments. -/
def ofTwo (last a b : String) : Testing Bool := do
  if a = "!" then return b = ""
  match letter? a with
  | some letter => return (← oneSided letter a last [b]).1
  | none => beyond last

mutual

/-- Reads a row of so many arguments at the beginning of some. -/
def ofCount (last : String) : Nat → Nat → List String → Testing (Bool × List String)
  | 0, _, args => return (false, args)
  | limit + 1, count, args =>
      match count, args with
      | 1, a :: rest => return (a ≠ "", rest)
      | 2, a :: b :: rest => return (← ofTwo last a b, rest)
      | 3, a :: sign :: b :: rest => do
          if twoSidedSigns.contains sign then return (← twoSided a sign b, rest)
          else if a = "!" then return (!(← ofTwo last sign b), rest)
          else if a = "(" && b = ")" then return (sign ≠ "", rest)
          else if sign = "-a" || sign = "-o" then disjunction last limit args
          else throw s!"{quoted sign}: binary operator expected"
      | 4, a :: b :: c :: d :: rest => do
          if a = "!" then
            let (value, _) ← ofCount last limit 3 [b, c, d]
            return (!value, rest)
          else if a = "(" && d = ")" then return (← ofTwo last b c, rest)
          else disjunction last limit args
      | _, args => disjunction last limit args

/-- Reads conditions of which one has to hold. -/
def disjunction (last : String) : Nat → List String → Testing (Bool × List String)
  | 0, args => return (false, args)
  | limit + 1, args => do
      let (value, rest) ← conjunction last limit args
      match rest with
      | "-o" :: rest =>
          let (other, rest) ← disjunction last limit rest
          return (value || other, rest)
      | _ => return (value, rest)

/-- Reads conditions all of which have to hold. -/
def conjunction (last : String) : Nat → List String → Testing (Bool × List String)
  | 0, args => return (false, args)
  | limit + 1, args => do
      let (value, rest) ← term last limit args
      match rest with
      | "-a" :: rest =>
          let (other, rest) ← conjunction last limit rest
          return (value && other, rest)
      | _ => return (value, rest)

/-- Reads a condition. -/
def term (last : String) : Nat → List String → Testing (Bool × List String)
  | 0, args => return (false, args)
  | limit + 1, args => do
      match args with
      | [] => beyond last
      | "!" :: rest =>
          if rest.isEmpty then beyond last
          let (value, rest) ← term last limit rest
          return (!value, rest)
      | "(" :: rest =>
          if rest.isEmpty then beyond last
          let inside := (rest.drop 1).takeWhile (· ≠ ")")
          let count := if 3 < inside.length then rest.length else inside.length + 1
          let (value, rest) ← ofCount last limit count rest
          match rest with
          | ")" :: rest => return (value, rest)
          | [] => throw "')' expected"
          | found :: _ => throw s!"')' expected, found {quoted found}"
      | a :: sign :: b :: rest =>
          if twoSidedSigns.contains sign then return (← twoSided a sign b, rest)
          else single a (sign :: b :: rest)
      | a :: rest => single a rest
where
  single (a : String) (rest : List String) : Testing (Bool × List String) :=
    match letter? a with
    | some letter => oneSided letter a last rest
    | none => return (a ≠ "", rest)

end

/-- Reads a whole condition. -/
def whole (args : List String) : Testing Bool := do
  let (value, rest) ← ofCount (args.getLastD "") (4 * args.length + 4) args.length args
  match rest with
  | [] => return value
  | extra :: _ => throw s!"extra argument {quoted extra}"

end Testing

/-- The program `test`. -/
def testMain (c : Call) : Action Nat := do
  if c.args.isEmpty then return 1
  match ← (Testing.whole c.args).run with
  | .ok value => return if value then 0 else 1
  | .error text => c.die 2 text

/-- The program `test` under its other name, with a bracket behind its
arguments. -/
def bracketMain (c : Call) : Action Nat := do
  if c.args.getLast? != some "]" then c.die 2 "missing ']'"
  testMain { c with args := c.args.dropLast }

end PipeShell.Userland

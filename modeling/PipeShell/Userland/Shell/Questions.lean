import PipeShell.Userland.Conditions
import PipeShell.Userland.Shell.State

/-!
# Questions

The command `test` of the shell, which is also called `[`.  Three or four arguments are
read by their number where that tells what is meant; others by a grammar, in which what
an argument is depends on the ones behind it.
-/

namespace PipeShell.Userland.Shell

open Running

/-- What an argument can be. -/
inductive Asking where
  /-- There is none. -/
  | missing
  | operand
  /-- Stands in front of one operand. -/
  | front (sign : String)
  /-- Stands between two operands. -/
  | between (sign : String)
  | negation
  | and
  | or
  | opening
  | closing
  deriving DecidableEq

/-- The signs that stand in front of an operand. -/
def frontSigns : List String :=
  ["-r", "-w", "-x", "-e", "-f", "-d", "-c", "-b", "-p", "-u", "-g", "-k", "-s", "-t", "-z", "-n",
    "-h", "-O", "-G", "-L", "-S"]

/-- The signs that stand between two operands. -/
def betweenSigns : List String :=
  ["=", "!=", "<", ">", "-eq", "-ne", "-ge", "-gt", "-le", "-lt", "-nt", "-ot", "-ef"]

/-- What an argument is by itself. -/
def Asking.ofText (text : Bytes) : Asking :=
  let name := nameOfBytes text
  if frontSigns.contains name then .front name
  else if betweenSigns.contains name then .between name
  else
    ([("!", .negation), ("-a", .and), ("-o", .or), ("(", .opening), (")", .closing)].lookup
      name).getD .operand

/-- What the first of some arguments is. -/
def Asking.ofArguments : List Bytes → Asking
  | [] => .missing
  | a :: rest =>
      let betweenNext : Bool :=
        match rest with
        | [] => true
        | [_] => false
        | next :: _ => Asking.ofText next matches .between _
      match Asking.ofText a with
      | .front sign => if betweenNext then .operand else .front sign
      | .opening => if rest.isEmpty then .operand else .opening
      | other => other

/-- Finds a condition wrong. -/
def badCondition {α : Type} (sign : Bytes) (text : String) : Running α :=
  failWith ((if sign.isEmpty then [] else sign ++ encode ": ") ++ encode text)

/-- The number that an argument stands for. -/
def askedNumber (text : Bytes) : Running Int := do
  let body := text.dropWhile isSpace
  let signed := body.head? == some 0x2D || body.head? == some 0x2B
  let digits := (if signed then body.drop 1 else body).takeWhile isDigit
  let rest := body.drop (digits.length + if signed then 1 else 0)
  let n : Int := valueOf 10 digits
  let n := if body.head? == some 0x2D then -n else n
  if digits.isEmpty || !rest.all isSpace || halfModulus ≤ n || n < -halfModulus then
    failWith (encode "Illegal number: " ++ text)
  return n

/-- Answers a question about two operands. -/
def askBetween (sign : String) (a b : Bytes) : Running Bool := do
  match sign with
  | "=" => return a == b
  | "!=" => return a != b
  | "<" => return compareBytes a b == .lt
  | ">" => return compareBytes a b == .gt
  | "-nt" | "-ot" | "-ef" => act (twoFilesQuestion sign (nameOfBytes a) (nameOfBytes b))
  | _ =>
      let x ← askedNumber a
      let y ← askedNumber b
      return (compareNumbers? sign x y).getD false

/-- Answers a question about an operand. -/
def askFront (sign : String) (a : Bytes) : Running Bool := do
  match sign.toList with
  | ['-', 'z'] => return a.isEmpty
  | ['-', 'n'] => return !a.isEmpty
  | ['-', 't'] =>
      let _ ← askedNumber a
      return false
  | [_, letter] => act (fileQuestion letter (nameOfBytes a))
  | _ => return false

mutual

/-- Reads a condition that begins with the first argument, which has been read as what
is told; the arguments left begin with the last one of the condition. -/
def askSingle : Nat → Asking → List Bytes → Running (Bool × List Bytes)
  | 0, _, args => return (false, args)
  | limit + 1, asking, args => do
      match asking with
      | .missing => return (false, args)
      | .opening =>
          let inside := args.drop 1
          let first := Asking.ofArguments inside
          if first = .closing then return (false, inside)
          let (value, rest) ← askAny limit first inside
          let rest := rest.drop 1
          unless Asking.ofArguments rest = .closing do badCondition [] "closing paren expected"
          return (value, rest)
      | .front sign =>
          match args.drop 1 with
          | [] => badCondition (encode sign) "argument expected"
          | a :: rest => return (← askFront sign a, a :: rest)
      | _ =>
          match args with
          | [] => return (false, [])
          | a :: rest =>
              match Asking.ofArguments rest with
              | .between sign =>
                  match rest.drop 1 with
                  | [] => badCondition (encode sign) "argument expected"
                  | b :: rest => return (← askBetween sign a b, b :: rest)
              | _ => return (!a.isEmpty, a :: rest)

/-- Reads a condition with the signs of negation in front of it. -/
def askNegated : Nat → Asking → List Bytes → Running (Bool × List Bytes)
  | 0, _, args => return (false, args)
  | limit + 1, asking, args => do
      if asking = .negation then
        let next := Asking.ofArguments (args.drop 1)
        let args := if next = .missing then args else args.drop 1
        let (value, rest) ← askNegated limit next args
        return (!value, rest)
      else askSingle limit asking args

/-- Reads conditions that all have to hold. -/
def askAll : Nat → Asking → List Bytes → Running (Bool × List Bytes)
  | 0, _, args => return (false, args)
  | limit + 1, asking, args => do
      let (value, rest) ← askNegated limit asking args
      if Asking.ofArguments (rest.drop 1) = .and then
        let rest := rest.drop 2
        let (other, rest) ← askAll limit (Asking.ofArguments rest) rest
        return (value && other, rest)
      else return (value, rest)

/-- Reads conditions of which one has to hold. -/
def askAny : Nat → Asking → List Bytes → Running (Bool × List Bytes)
  | 0, _, args => return (false, args)
  | limit + 1, asking, args => do
      let (value, rest) ← askAll limit asking args
      if Asking.ofArguments (rest.drop 1) = .or then
        let rest := rest.drop 2
        let (other, rest) ← askAny limit (Asking.ofArguments rest) rest
        return (value || other, rest)
      else return (value, rest)

end

/-- Answers a question of so many arguments; `no` is the answer that does not hold. -/
def answer : Nat → Bool → List Bytes → Running Bool
  | 0, no, _ => return no
  | limit + 1, no, args => do
      let whole (asking : Asking) (args : List Bytes) : Running Bool := do
        let (value, rest) ← askAny (6 * args.length + 6) asking args
        if 1 < rest.length then badCondition (rest.headD []) "unexpected operator"
        return value != no
      let enclosed := args.head? == some [0x28] && args.getLast? == some [0x29]
      let byNumber := args.length = 3 || args.length = 4
      if args.isEmpty then return no
      if args.length = 3 && (Asking.ofText (args.getD 1 []) matches .between _) then
        whole .operand args
      else if byNumber && enclosed then
        let inside := (args.drop 1).dropLast
        whole (Asking.ofArguments inside) inside
      else if byNumber && args.head? == some [0x21] then answer limit (!no) (args.drop 1)
      else whole (Asking.ofArguments args) args

/-- The command `test`. -/
def test (name : Bytes) (args : List Bytes) : Running Nat := do
  let bracketed := name.head? == some 0x5B
  if bracketed && args.getLast? != some [0x5D] then fail "missing ]"
  let args := if bracketed then args.dropLast else args
  return if ← answer (args.length + 1) false args then 0 else 1

end PipeShell.Userland.Shell

import PipeShell.Userland.Shell.Grammar

/-!
# Arithmetic

Whole numbers of 64 bits, which wrap around.  Where the value of part of an expression
cannot matter, the part is read but no variable is set in it and nothing is divided by
zero.
-/

namespace PipeShell.Userland.Shell

/-- A sign or an operand in an expression. -/
inductive Term where
  | number (n : Int)
  | variableName (name : Bytes)
  | sign (text : String)
  | bad
  | finish
  deriving DecidableEq, Repr

/-- The greatest number. -/
def greatestNumber : Int := (halfModulus : Int) - 1

/-- A number as far as 64 bits can hold it. -/
def wrapped (n : Int) : Int :=
  Int.bmod n wordModulus

/-- The number at the beginning of a text, without a sign, and what follows it. -/
def readNumber (text : Bytes) : Int × Bytes :=
  let digitsOf (base : Nat) (text : Bytes) : Int × Bytes :=
    let digits := text.takeWhile fun b ↦ (hexValue? b).any (· < base)
    (min greatestNumber (valueOf base digits), text.drop digits.length)
  match text with
  | 0x30 :: x :: d :: rest =>
      if (x == 0x78 || x == 0x58) && isHexDigit d then digitsOf 16 (d :: rest) else digitsOf 8 text
  | 0x30 :: _ => digitsOf 8 text
  | _ => digitsOf 10 text

/-- The number that the value of a variable stands for, with blanks around it; an empty
value stands for zero. -/
def numberOfValue? (value : Bytes) : Option Int :=
  let text := value.dropWhile isSpace
  let signed := text.head? == some 0x2D || text.head? == some 0x2B
  let body := if signed then text.drop 1 else text
  let (n, rest) := if body.head?.any isDigit then readNumber body else (0, value)
  if body.head?.any isDigit then
    if rest.all isSpace then some (if text.head? == some 0x2D then -n else n) else none
  else if value.all isSpace then some 0
  else none

/-- The signs of an expression, longer ones in front of their beginnings. -/
def arithmeticSigns : List String :=
  ["<<=", ">>=", "<<", ">>", "<=", ">=", "==", "!=", "&&", "||", "*=", "/=", "%=", "+=", "-=", "&=",
    "^=", "|=", "=", "<", ">", "!", "&", "|", "*", "/", "%", "+", "-", "^", "~", "?", ":", "(", ")"]

/-- The signs that give a variable a value, without the equals sign. -/
def assigningSigns : List String :=
  ["=", "*=", "/=", "%=", "+=", "-=", "<<=", ">>=", "&=", "^=", "|="]

/-- How closely a sign binds the operands on both of its sides. -/
def bindingOf? (sign : String) : Option Nat :=
  [("*", 0), ("/", 0), ("%", 0), ("+", 1), ("-", 1), ("<<", 2), (">>", 2), ("<", 3), ("<=", 3),
    (">", 3), (">=", 3), ("==", 4), ("!=", 4), ("&", 5), ("^", 6), ("|", 7)].lookup sign

/-- The next term of an expression. -/
def readTerm (text : Bytes) : Term × Bytes :=
  let text := text.dropWhile fun b ↦ isBlank b || b == 0x0A
  match text with
  | [] => (.finish, [])
  | b :: _ =>
      if isDigit b then
        let (n, rest) := readNumber text
        (.number n, rest)
      else if beginsName b then
        let name := nameIn text
        (.variableName name, text.drop name.length)
      else
        match arithmeticSigns.find? fun sign ↦ beginsWith text (encode sign) with
        | some sign => (.sign sign, text.drop sign.length)
        | none => (.bad, text)

/-- An expression of which some has been read. -/
structure Calculation where
  term : Term
  rest : Bytes
  /-- The values of variables, the last ones set first. -/
  set : List (Bytes × Int)

/-- What is wrong with an expression. -/
inductive Miscalculation where
  | expression (text : String)
  | number (value : Bytes)

/-- Part of the reading of an expression. -/
abbrev Calculating := StateT Calculation (Except Miscalculation)

namespace Calculating

variable {α : Type}

def fail (text : String) : Calculating α :=
  throw (.expression text)

/-- Goes on to the next term. -/
def advance : Calculating Unit :=
  modify fun c ↦
    let (term, rest) := readTerm c.rest
    { c with term, rest }

/-- The number that a variable holds. -/
def valueOf (known : Bytes → Option Bytes) (name : Bytes) : Calculating Int := do
  match (← get).set.lookup name with
  | some n => return n
  | none =>
      let value := (known name).getD []
      match numberOfValue? value with
      | some n => return n
      | none => throw (.number value)

/-- Whether something holds, as a number. -/
def truth (holds : Bool) : Int :=
  if holds then 1 else 0

/-- Combines two numbers. -/
def combine (sign : String) (a b : Int) : Calculating Int := do
  let bits (f : UInt64 → UInt64 → UInt64) : Int :=
    wrapped (f (UInt64.ofInt a) (UInt64.ofInt b)).toNat
  match sign with
  | "*" => return wrapped (a * b)
  | "+" => return wrapped (a + b)
  | "-" => return wrapped (a - b)
  | "/" => if b = 0 then fail "division by zero" else return wrapped (Int.tdiv a b)
  | "%" => if b = 0 then fail "division by zero" else return Int.tmod a b
  | "<<" => return bits fun x y ↦ x <<< y
  | ">>" => return a >>> (UInt64.ofInt b % 64).toNat
  | "<" => return truth (a < b)
  | "<=" => return truth (a ≤ b)
  | ">" => return truth (b < a)
  | ">=" => return truth (b ≤ a)
  | "==" => return truth (a = b)
  | "!=" => return truth (a ≠ b)
  | "&" => return bits (· &&& ·)
  | "^" => return bits (· ^^^ ·)
  | "|" => return bits (· ||| ·)
  | _ => return b

mutual

/-- Reads an operand with the signs in front of it. -/
def operand (known : Bytes → Option Bytes) (idle : Bool) : Nat → Calculating Int
  | 0 => fail "expecting primary"
  | limit + 1 => do
      let term := (← get).term
      match term with
      | .number n =>
          advance
          return n
      | .variableName name =>
          advance
          if idle then return 0 else valueOf known name
      | .sign "(" =>
          advance
          let n ← assignment known idle limit
          unless (← get).term = .sign ")" do fail "expecting ')'"
          advance
          return n
      | .sign "+" =>
          advance
          operand known idle limit
      | .sign "-" =>
          advance
          return wrapped (-(← operand known idle limit))
      | .sign "!" =>
          advance
          return truth ((← operand known idle limit) = 0)
      | .sign "~" =>
          advance
          return -(← operand known idle limit) - 1
      | _ => fail "expecting primary"

/-- Goes on behind an operand with signs that bind more closely than `least`. -/
def operation (known : Bytes → Option Bytes) (idle : Bool) (least : Nat) (a : Int) :
    Nat → Calculating Int
  | 0 => return a
  | limit + 1 => do
      match (← get).term with
      | .sign sign =>
          match bindingOf? sign with
          | none => return a
          | some binding =>
              if least ≤ binding then return a
              advance
              let b ← operand known idle limit
              let b ← operation known idle binding b limit
              let n ← if idle then pure b else combine sign a b
              operation known idle least n limit
      | _ => return a

/-- Reads operands that all have to be true. -/
def conjunction (known : Bytes → Option Bytes) (idle : Bool) : Nat → Calculating Int
  | 0 => fail "expecting primary"
  | limit + 1 => do
      let a ← operation known idle 8 (← operand known idle limit) limit
      if (← get).term = .sign "&&" then
        advance
        let b ← conjunction known (idle || a = 0) limit
        return truth (a ≠ 0 && b ≠ 0)
      else return a

/-- Reads operands of which one has to be true. -/
def disjunction (known : Bytes → Option Bytes) (idle : Bool) : Nat → Calculating Int
  | 0 => fail "expecting primary"
  | limit + 1 => do
      let a ← conjunction known idle limit
      if (← get).term = .sign "||" then
        advance
        let b ← disjunction known (idle || a ≠ 0) limit
        return truth (a ≠ 0 || b ≠ 0)
      else return a

/-- Reads a choice between two values. -/
def alternative (known : Bytes → Option Bytes) (idle : Bool) : Nat → Calculating Int
  | 0 => fail "expecting primary"
  | limit + 1 => do
      let a ← disjunction known idle limit
      if (← get).term = .sign "?" then
        advance
        let b ← assignment known (idle || a = 0) limit
        unless (← get).term = .sign ":" do fail "expecting ':'"
        advance
        let c ← alternative known (idle || a ≠ 0) limit
        return if a ≠ 0 then b else c
      else return a

/-- Reads a value that a variable may be given. -/
def assignment (known : Bytes → Option Bytes) (idle : Bool) : Nat → Calculating Int
  | 0 => fail "expecting primary"
  | limit + 1 => do
      let c ← get
      match c.term with
      | .variableName name =>
          match readTerm c.rest with
          | (.sign sign, rest) =>
              if assigningSigns.contains sign then
                set { c with rest }
                advance
                let n ← assignment known idle limit
                if idle then return n
                let n ←
                  if sign = "=" then pure n
                  else combine (sign.dropEnd 1).toString (← valueOf known name) n
                modify fun c ↦ { c with set := (name, n) :: c.set }
                return n
              else alternative known idle limit
          | _ => alternative known idle limit
      | _ => alternative known idle limit

end

end Calculating

/-- The value of an expression, and the variables set in it, the first one first. -/
def calculate (known : Bytes → Option Bytes) (text : Bytes) :
    Except Miscalculation (Int × List (Bytes × Int)) := do
  let read : Calculating Int := do
    Calculating.advance
    let n ← Calculating.assignment known false (8 * text.length + 16)
    unless (← get).term = .finish do Calculating.fail "expecting EOF"
    return n
  let (n, c) ← read.run ⟨.finish, text, []⟩
  return (n, c.set.reverse)

end PipeShell.Userland.Shell

import PipeShell.Userland.Action
import PipeShell.Userland.Quoting
import PipeShell.Userland.Regex

/-!
# Expressions of arguments

The program `expr`.  A value is a whole number or a text; a text of digits can be
taken for a number and the other way around.
-/

namespace PipeShell.Userland

open PipeShell.Userland.Action

/-- A value of an expression. -/
inductive ExprValue where
  | number (n : Int)
  | text (bytes : Bytes)
  deriving DecidableEq, Repr

namespace ExprValue

def bytes : ExprValue → Bytes
  | .number n => encode (toString n)
  | .text bytes => bytes

/-- The number that a value stands for. -/
def number? : ExprValue → Option Int
  | .number n => some n
  | .text bytes =>
      let digits := if bytes.head? == some 0x2D then bytes.drop 1 else bytes
      if digits.isEmpty || !digits.all isDigit then none
      else
        let n := Int.ofNat (valueOf 10 digits)
        some (if bytes.head? == some 0x2D then -n else n)

/-- Whether a value counts as false. -/
def isNull : ExprValue → Bool
  | .number n => n = 0
  | .text bytes =>
      let digits := if bytes.head? == some 0x2D then bytes.drop 1 else bytes
      bytes.isEmpty || !digits.isEmpty && digits.all (· == 48)

def zero : ExprValue := .number 0

/-- The number of a truth value. -/
def ofBool (b : Bool) : ExprValue := .number (if b then 1 else 0)

/-- Matches an expression against the beginning of a text: what its first group has
matched, or how long the match is. -/
def matched (text pattern : ExprValue) : Except String ExprValue :=
  let style : Regex.Style := ⟨false, false, false⟩
  match Regex.read style pattern.bytes with
  | .error e => .error e.message
  | .ok (r, groups) =>
      let text := text.bytes
      match Regex.matchAt style r ⟨[], text⟩ with
      | none => .ok (if 0 < groups then .text [] else zero)
      | some m =>
          .ok (if 0 < groups then .text ((m.groups.lookup 1).getD [])
            else .number (text.length - m.rest.length : Nat))

/-- Where the first byte of a text is that is among some, counted from one. -/
def indexOfAny (text bytes : ExprValue) : ExprValue :=
  match text.bytes.findIdx? (bytes.bytes.contains ·) with
  | some i => .number (i + 1 : Nat)
  | none => zero

/-- Part of a text. -/
def part (text start size : ExprValue) : ExprValue :=
  match start.number?, size.number? with
  | some start, some size =>
      if start ≤ 0 || size ≤ 0 then .text []
      else .text ((text.bytes.drop (start.toNat - 1)).take size.toNat)
  | _, _ => .text []

/-- The operations on numbers. -/
def calculate (sign : String) (a b : ExprValue) : Except String ExprValue := do
  let (some x, some y) := (a.number?, b.number?) | throw "non-integer argument"
  match sign with
  | "+" => return .number (x + y)
  | "-" => return .number (x - y)
  | "*" => return .number (x * y)
  | _ =>
      if y = 0 then throw "division by zero"
      return .number (if sign = "/" then x.tdiv y else x.tmod y)

/-- The comparisons. -/
def comparison (sign : String) (a b : ExprValue) : ExprValue :=
  let order :=
    match a.number?, b.number? with
    | some x, some y => compare x y
    | _, _ => compareBytes a.bytes b.bytes
  ofBool (match sign with
    | "<" => order.isLT
    | "<=" => order.isLE
    | "=" | "==" => order.isEq
    | "!=" => order.isNe
    | ">=" => order.isGE
    | _ => order.isGT)

end ExprValue

/-- The signs that stand between two values, those that bind least first. -/
def exprSigns : List (List String) :=
  [["|"], ["&"], ["<", "<=", "=", "==", "!=", ">=", ">"], ["+", "-"], ["*", "/", "%"], [":"]]

/-- An expression being read: the argument before it, if there is one, and those that
are left. -/
structure ExprReading where
  last : String
  rest : List String

namespace ExprReading

/-- Goes on behind the next argument. -/
def next (s : ExprReading) : ExprReading :=
  ⟨s.rest.headD s.last, s.rest.drop 1⟩

/-- The complaint about arguments that come to an end too soon. -/
def missing {α : Type} (s : ExprReading) : Except String α :=
  .error s!"syntax error: missing argument after {quoted s.last}"

/-- Joins two values by a sign.  Where the value does not matter, nothing is looked
at. -/
def join (sign : String) (live : Bool) (a b : ExprValue) : Except String ExprValue :=
  match sign with
  | "|" => .ok (if a.isNull then (if b.isNull then .zero else b) else a)
  | "&" => .ok (if a.isNull || b.isNull then .zero else a)
  | ":" => if live then a.matched b else .ok a
  | _ =>
      if ["+", "-", "*", "/", "%"].contains sign then
        if live then ExprValue.calculate sign a b else .ok a
      else .ok (if live then ExprValue.comparison sign a b else .zero)

/-- Whether the value behind a sign matters. -/
def isLive (sign : String) (live : Bool) (a : ExprValue) : Bool :=
  match sign with
  | "|" => live && a.isNull
  | "&" => live && !a.isNull
  | _ => live

mutual

/-- Reads values joined by the signs of a level or of those that bind more. -/
def level : Nat → List (List String) → Bool → ExprReading → Except String (ExprValue × ExprReading)
  | 0, _, _, s => s.missing
  | limit + 1, [], live, s => word limit live s
  | limit + 1, signs :: more, live, s => do
      let (value, s) ← level limit more live s
      joined limit signs more live value s

/-- Reads what follows a value: signs of a level, and a value behind each. -/
def joined : Nat → List String → List (List String) → Bool → ExprValue → ExprReading →
    Except String (ExprValue × ExprReading)
  | 0, _, _, _, _, s => s.missing
  | limit + 1, signs, more, live, value, s => do
      let sign := s.rest.headD ""
      if s.rest.isEmpty || !signs.contains sign then return (value, s)
      let (other, s) ← level limit more (isLive sign live value) s.next
      joined limit signs more live (← join sign live value other) s

/-- Reads a word with its arguments, or a single value. -/
def word : Nat → Bool → ExprReading → Except String (ExprValue × ExprReading)
  | 0, _, s => s.missing
  | limit + 1, live, s => do
      match s.rest with
      | [] => s.missing
      | "+" :: rest =>
          match rest with
          | [] => s.next.missing
          | text :: _ => return (.text (encode text), s.next.next)
      | "length" :: _ =>
          let (text, s) ← word limit live s.next
          return (.number text.bytes.length, s)
      | "match" :: _ =>
          let (text, s) ← word limit live s.next
          let (pattern, s) ← word limit live s
          return (← if live then text.matched pattern else .ok text, s)
      | "index" :: _ =>
          let (text, s) ← word limit live s.next
          let (bytes, s) ← word limit live s
          return (text.indexOfAny bytes, s)
      | "substr" :: _ =>
          let (text, s) ← word limit live s.next
          let (start, s) ← word limit live s
          let (size, s) ← word limit live s
          return (text.part start size, s)
      | "(" :: _ =>
          let (value, s) ← level limit exprSigns live s.next
          match s.rest with
          | [] => throw s!"syntax error: expecting ')' after {quoted s.last}"
          | ")" :: _ => return (value, s.next)
          | found :: _ => throw s!"syntax error: expecting ')' instead of {quoted found}"
      | ")" :: _ => throw "syntax error: unexpected ')'"
      | text :: _ => return (.text (encode text), s.next)

end

/-- The value of a whole expression. -/
def whole (args : List String) : Except String ExprValue := do
  let (value, s) ← level (20 * args.length + 20) exprSigns true ⟨"expr", args⟩
  match s.rest with
  | [] => return value
  | extra :: _ => throw s!"syntax error: unexpected argument {quoted extra}"

end ExprReading

/-- The program `expr`. -/
def exprMain (c : Call) : Action Nat := do
  let args := if c.args.head? == some "--" then c.args.drop 1 else c.args
  if args.isEmpty then c.misuse 2 "missing operand"
  match ExprReading.whole args with
  | .error text => c.die 2 text
  | .ok value =>
      c.putOr 3 "write error" (value.bytes ++ [10])
      return if value.isNull then 1 else 0

end PipeShell.Userland

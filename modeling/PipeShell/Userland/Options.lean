import PipeShell.Userland.Action
import PipeShell.Userland.Quoting

/-!
# Options

Options may stand anywhere among the operands of a program up to a `--`, unless
the program wants them all in front.  Letters can be joined behind one dash, a
word can be cut short as long as only one option begins that way, and a value
stands in the same argument or in the next one.
-/

namespace PipeShell.Userland

/-- What is wrong with a call. -/
structure Complaint where
  text : String
  /-- The code that the program ends with, if it is not the one for wrong options. -/
  code : Option Nat
  /-- Whether the help is pointed to. -/
  helps : Bool
  deriving DecidableEq, Repr

namespace Complaint

/-- The complaint about options that cannot be read. -/
def misread (text : String) : Complaint :=
  ⟨text, none, true⟩

/-- The complaint about a value; the program ends with the code for wrong options. -/
def plain (text : String) : Complaint :=
  ⟨text, none, false⟩

end Complaint

/-- The word that a text stands for, among rows of words that mean the same, each shown as the
first of its row.  A word can be cut short as long as only one row has words that begin
that way. -/
def chooseWord (what : String) (rows : List (List String)) (text : String) :
    Except Complaint String :=
  match rows.find? (·.contains text), rows.filter (·.any (·.startsWith text)) with
  | some row, _ | none, [row] => .ok (row.headD "")
  | none, begun =>
      let fault := if begun.isEmpty then "invalid" else "ambiguous"
      let line (row : List String) : String :=
        "\n  - " ++ ", ".intercalate (row.map fun word ↦ s!"'{word}'")
      let lines := String.join (rows.map line)
      .error ⟨s!"{fault} argument {quoted text} for {quoted what}\nValid arguments are:{lines}",
        some 1, true⟩

/-- Whether an option has a value. -/
inductive Takes where
  | nothing
  | maybe
  | value
  deriving DecidableEq, Repr

/-- An option of a program. -/
structure Choice where
  /-- What the program knows the option by. -/
  key : String
  short : Option Char
  long : Option String
  takes : Takes
  /-- What the program takes the value for. -/
  convert : Option String → Except Complaint (Option String)

namespace Choice

/-- An option of a letter. -/
def letter (c : Char) : Choice :=
  ⟨c.toString, some c, none, .nothing, .ok⟩

/-- An option of a letter or a word. -/
def flag (c : Char) (word : String) : Choice :=
  ⟨c.toString, some c, some word, .nothing, .ok⟩

/-- An option of a word. -/
def word (word : String) : Choice :=
  ⟨word, none, some word, .nothing, .ok⟩

/-- An option that means the same as another one. -/
def meaning (o : Choice) (key : String) : Choice :=
  { o with key }

/-- An option that has a value. -/
def valued (o : Choice) : Choice :=
  { o with takes := .value }

/-- An option that can have a value. -/
def maybeValued (o : Choice) : Choice :=
  { o with takes := .maybe }

/-- An option whose value is checked. -/
def checked (o : Choice) (check : String → Option Complaint) : Choice :=
  { o with
    convert := fun value ↦
      match value.bind check with
      | some complaint => .error complaint
      | none => .ok value }

/-- An option whose value is one of some words, of which those of a row mean the same. -/
def among (o : Choice) (rows : List (List String)) : Choice :=
  { o with
    convert := fun value ↦ value.mapM (chooseWord ("--" ++ o.long.getD "") rows) }

/-- An option that is always wrong. -/
def refused (o : Choice) (complaint : Complaint) : Choice :=
  { o with convert := fun _ ↦ .error complaint }

/-- A digit that begins the value of an option. -/
def digitOf (o : Choice) (c : Char) : Choice :=
  { o with
    short := some c
    long := none
    takes := .maybe
    convert := fun rest ↦ o.convert (some (c.toString ++ rest.getD "")) }

/-- The option together with the digits that may begin its value. -/
def withDigits (o : Choice) : List Choice :=
  o :: "0123456789".toList.map o.digitOf

end Choice

/-- The options and the operands of a call. -/
structure Arguments where
  options : List (String × Option String)
  operands : List String
  /-- The operands in front of a `--`. -/
  early : List String

namespace Arguments

def has (a : Arguments) (key : String) : Bool :=
  a.options.any (·.1 == key)

/-- The value of an option; the last one given counts. -/
def value? (a : Arguments) (key : String) : Option String :=
  ((a.options.filter (·.1 == key)).getLast?).bind (·.2)

/-- All values of an option. -/
def values (a : Arguments) (key : String) : List String :=
  (a.options.filter (·.1 == key)).filterMap (·.2)

/-- The one of some options that was given last. -/
def last? (a : Arguments) (keys : List String) : Option String :=
  ((a.options.filter (keys.contains ·.1)).getLast?).map (·.1)

end Arguments

/-- Reads the letters behind a dash, and tells which options they are and, if nothing is
wrong, what the rest of the arguments is: the last letter may take its value from there. -/
def readLetters (choices : List Choice) (found : List (String × Option String)) :
    List Char → List String → List (String × Option String) × Except Complaint (List String)
  | [], rest => (found, .ok rest)
  | c :: more, rest =>
      match choices.find? (·.short == some c) with
      | none => (found, .error (.misread s!"invalid option -- '{c}'"))
      | some o =>
          let ending (value : Option String) (rest : List String) :
              List (String × Option String) × Except Complaint (List String) :=
            match o.convert value with
            | .ok value => (found ++ [(o.key, value)], .ok rest)
            | .error complaint => (found, .error complaint)
          match o.takes with
          | .nothing =>
              match o.convert none with
              | .ok value => readLetters choices (found ++ [(o.key, value)]) more rest
              | .error complaint => (found, .error complaint)
          | .maybe => ending (if more.isEmpty then none else some (String.ofList more)) rest
          | .value =>
              match more, rest with
              | [], value :: rest => ending (some value) rest
              | [], [] => (found, .error (.misread s!"option requires an argument -- '{c}'"))
              | _, rest => ending (some (String.ofList more)) rest

/-- Reads an option word, without its dashes. -/
def readWord (choices : List Choice) (text : String) (rest : List String) :
    Except Complaint ((String × Option String) × List String) := do
  let name := String.ofList (text.toList.takeWhile (· != '='))
  let value :=
    if name.length < text.length then some (String.ofList (text.toList.drop (name.length + 1)))
    else none
  let begun := choices.filter fun o ↦ o.long.any (·.startsWith name)
  let o ←
    match begun.find? (·.long == some name), begun with
    | some o, _ => pure o
    | none, [] => throw (.misread s!"unrecognized option '--{text}'")
    | none, o :: others =>
        if others.all (·.key == o.key) then pure o
        else
          let words := String.join (begun.map fun o ↦ s!" '--{o.long.getD default}'")
          throw (.misread s!"option '--{text}' is ambiguous; possibilities:{words}")
  let word := o.long.getD ""
  match o.takes, value, rest with
  | .nothing, some _, _ => throw (.misread s!"option '--{word}' doesn't allow an argument")
  | .value, none, [] => throw (.misread s!"option '--{word}' requires an argument")
  | .value, none, value :: rest => return ((o.key, ← o.convert (some value)), rest)
  | _, _, _ => return ((o.key, ← o.convert value), rest)

/-- Reads arguments as far as nothing is wrong; `inFront` says whether the first operand ends
the options. -/
def readArguments (choices : List Choice) (inFront : Bool) (limit : Nat) (a : Arguments)
    (args : List String) : Arguments × Option Complaint :=
  match limit, args with
  | limit + 1, argument :: rest =>
      if argument = "--" then ({ a with operands := a.operands ++ rest }, none)
      else if argument.startsWith "--" then
        match readWord choices (String.ofList (argument.toList.drop 2)) rest with
        | .ok (o, rest) =>
            readArguments choices inFront limit { a with options := a.options ++ [o] } rest
        | .error complaint => (a, some complaint)
      else if argument.startsWith "-" && argument ≠ "-" then
        match readLetters choices a.options (argument.toList.drop 1) rest with
        | (options, .ok rest) => readArguments choices inFront limit { a with options } rest
        | (options, .error complaint) => ({ a with options }, some complaint)
      else if inFront then ({ a with operands := a.operands ++ argument :: rest }, none)
      else
        let operands := a.operands ++ [argument]
        readArguments choices inFront limit { a with operands, early := operands } rest
  | _, _ => (a, none)

namespace Call

variable {α : Type}

/-- Says what is wrong with a call and ends, with the code given unless another one belongs to
the complaint. -/
def reject (c : Call) (code : Nat) (complaint : Complaint) : Action α :=
  let code := complaint.code.getD code
  if complaint.helps then c.misuse code complaint.text else c.die code complaint.text

/-- The options and operands of a call up to what is wrong with it. -/
def readPartly (c : Call) (choices : List Choice) : Arguments × Option Complaint :=
  readArguments choices false c.args.length ⟨[], [], []⟩ c.args

/-- Goes on with a call unless something is wrong with it. -/
def rejectAny (c : Call) (code : Nat) : Option Complaint → Action Unit
  | none => return ()
  | some complaint => c.reject code complaint

/-- The options and operands of a call; if there is anything wrong with them the
program ends, as a rule with the code given. -/
def read (c : Call) (choices : List Choice) (code : Nat) : Action Arguments := do
  let (a, complaint) := c.readPartly choices
  c.rejectAny code complaint
  return a

/-- The options of a call, all of them in front, and its operands. -/
def readInFront (c : Call) (choices : List Choice) (code : Nat) : Action Arguments := do
  let (a, complaint) := readArguments choices true c.args.length ⟨[], [], []⟩ c.args
  c.rejectAny code complaint
  return a

/-- The complaint about a call without operands. -/
def missingOperand (c : Call) : Action α :=
  c.misuse 1 "missing operand"

/-- The complaint about an operand too many. -/
def extraOperand (c : Call) (operand : String) : Action α :=
  c.misuse 1 s!"extra operand {quoted operand}"

end Call

end PipeShell.Userland

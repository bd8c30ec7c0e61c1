import PipeShell.Userland.Fraction
import PipeShell.Userland.Options

/-!
# Running other programs

The programs `env`, `printenv`, `nice` and `nohup`, which show what a program is
started with or start one, and `sleep`.
-/

namespace PipeShell.Userland

open PipeShell.Userland.Action

/-- Goes on as another program; if that cannot be, the complaint is said. -/
def runOr (c : Call) (args : List String) (environment : Environment)
    (complaint : Errno → String) : Action Nat := do
  match ← request (.execute args environment) with
  | none => return 0
  | some e =>
      c.warn (complaint e)
      return if e = .noEntry then 127 else 126

/-! ## Variables -/

/-- The name and the value in an assignment. -/
def assignment? (text : String) : Option (String × String) :=
  let name := text.toList.takeWhile (· != '=')
  match text.toList.drop name.length with
  | _ :: value => some (String.ofList name, String.ofList value)
  | [] => none

/-! ## Splitting -/

/-- A string that `env` splits into arguments: those found, and the one being
read, if one has been begun. -/
structure Splitting where
  found : List String
  word : Option (List Char)

namespace Splitting

def add (s : Splitting) (text : List Char) : Splitting :=
  { s with word := some (s.word.getD [] ++ text) }

def done (s : Splitting) : Splitting :=
  match s.word with
  | none => s
  | some word => ⟨s.found ++ [String.ofList word], none⟩

/-- What a backslash and a letter stand for. -/
def escape? (c : Char) : Option Char :=
  [('f', '\x0c'), ('n', '\n'), ('r', '\r'), ('t', '\t'), ('v', '\x0b'), ('#', '#'), ('$', '$'),
    ('\\', '\\'), ('"', '"'), ('\x27', '\x27')].lookup c

/-- The value of a variable in braces, and what follows it. -/
def readVariable (environment : Environment) (text : List Char) : Option (List Char × List Char) :=
  match text with
  | '\x7b' :: rest =>
      let name := rest.takeWhile (· != '\x7d')
      let isName := name.all (fun c ↦ c.isAlphanum || c == '_') &&
        name.head?.any fun c ↦ !c.isDigit
      match rest.drop name.length with
      | _ :: rest =>
          if isName then
            some (((environment.value? (String.ofList name)).getD "").toList, rest)
          else none
      | [] => none
  | _ => none

/-- Splits a string; `quote` is the quote that is open. -/
def read (environment : Environment) (quote : Option Char) (s : Splitting) :
    Nat → List Char → Except String (List String)
  | 0, _ => .ok s.done.found
  | limit + 1, text =>
      match text with
      | [] => if quote.isSome then .error "no terminating quote in -S string" else .ok s.done.found
      | '\\' :: rest =>
          match rest with
          | [] => .error "invalid backslash at end of string in -S"
          | c :: rest =>
              if quote == some '\x27' && c != '\\' && c != '\x27' then
                read environment quote (s.add ['\\', c]) limit rest
              else if c == '_' then
                if quote.isSome then read environment quote (s.add [' ']) limit rest else read environment quote s.done limit rest
              else if c == 'c' then
                if quote.isSome then .error "'\\c' must not appear in double-quoted -S string"
                else .ok s.done.found
              else
                match escape? c with
                | some plain => read environment quote (s.add [plain]) limit rest
                | none => .error ("invalid sequence '\\" ++ c.toString ++ "' in -S")
      | c :: rest =>
          if quote == some c then read environment none s limit rest
          else if quote.isNone && (c == '"' || c == '\x27') then
            read environment (some c) (s.add []) limit rest
          else if quote.isNone && (c == ' ' || '\t' ≤ c && c ≤ '\r') then read environment quote s.done limit rest
          else if quote.isNone && c == '#' && s.word.isNone then .ok s.done.found
          else if c == '$' && quote != some '\x27' then
            match readVariable environment rest with
            | some (value, rest) => read environment quote (s.add value) limit rest
            | none =>
                .error
                  ("only $\x7bVARNAME\x7d expansion is supported, error at: " ++ String.ofList text)
          else read environment quote (s.add [c]) limit rest

/-- The arguments in a string. -/
def words (environment : Environment) (text : String) : Except String (List String) :=
  read environment none ⟨[], none⟩ (text.length + 1) text.toList

end Splitting

/-! ## Programs -/

/-- Arguments with those in the place of each option that asks for a string to be
split. -/
def expandSplits (environment : Environment) : Nat → List String → Except String (List String)
  | 0, args => .ok args
  | limit + 1, args => do
      let split (text : String) (rest : List String) : Except String (List String) := do
        expandSplits environment limit ((← Splitting.words environment text) ++ rest)
      match args with
      | [] => return []
      | first :: rest =>
          let word := "--split-string="
          if first.startsWith word then split (String.ofList (first.toList.drop word.length)) rest
          else if first.startsWith "--" || !first.startsWith "-" || first = "-" then return args
          else
            let letters := first.toList.drop 1
            let others := letters.takeWhile fun c ↦ c == 'i' || c == '0' || c == 'v'
            match letters.drop others.length, rest with
            | ['S'], text :: rest =>
                let args ← split text rest
                return if others.isEmpty then args else String.ofList ('-' :: others) :: args
            | 'S' :: c :: text, rest =>
                let args ← split (String.ofList (c :: text)) rest
                return if others.isEmpty then args else String.ofList ('-' :: others) :: args
            | [], rest => return first :: (← expandSplits environment limit rest)
            | _, _ => return args

/-- The options of `env`. -/
def envChoices : List Choice :=
  [.flag 'i' "ignore-environment", .flag '0' "null", (Choice.flag 'u' "unset").valued,
    (Choice.flag 'C' "chdir").valued, (Choice.flag 'S' "split-string").valued]

/-- The program `env`. -/
def envMain (c : Call) : Action Nat := do
  let args ←
    match expandSplits c.environment (c.args.length + 64) c.args with
    | .ok args => pure args
    | .error text => c.die 125 text
  let a ← { c with args }.readInFront envChoices 125
  let dashed := a.operands.head? == some "-"
  let operands := if dashed then a.operands.drop 1 else a.operands
  let mut environment : Environment :=
    if a.has "i" || dashed then [] else c.environment
  for name in a.values "u" do
    if name = "" || name.contains '=' then
      c.die 125 s!"cannot unset {quoted name}: {Errno.invalid.text}"
    environment := environment.unset name
  let settings := operands.takeWhile (·.contains '=')
  for setting in settings do
    if let some (name, value) := assignment? setting then
      environment := environment.set name value
  let command := operands.drop settings.length
  if command.isEmpty then
    if a.has "C" then c.misuse 125 "must specify command with --chdir (-C)"
    let ending := if a.has "0" then "\x00" else "\n"
    c.putOr 125 "write error"
      (encode (String.join (environment.map fun (name, value) ↦ s!"{name}={value}{ending}")))
    return 0
  if a.has "0" then c.misuse 125 "cannot specify --null (-0) with command"
  if let some path := a.value? "C" then
    if let some e ← request (.changeDirectory path) then
      c.die 125 s!"cannot change directory to {quotedName path}: {e.text}"
  let name := command.headD ""
  match ← request (.execute command environment) with
  | none => return 0
  | some e =>
      c.warn s!"{quoted name}: {e.text}"
      if e ≠ .noEntry then return 126
      if name.contains ' ' then c.warn "use -[v]S to pass options in shebang lines"
      return 127

/-- The program `printenv`. -/
def printenvMain (c : Call) : Action Nat := do
  let a ← c.readInFront [.flag '0' "null"] 2
  let ending := if a.has "0" then "\x00" else "\n"
  let write (text : String) : Action Unit :=
    c.putOr 2 "write error" (encode (text ++ ending))
  if a.operands.isEmpty then
    for (name, value) in c.environment do
      write s!"{name}={value}"
    return 0
  let mut code := 0
  for name in a.operands do
    match c.environment.filter (·.1 == name) with
    | [] => code := 1
    | found =>
        for (_, value) in found do
          write value
  return code

/-- The program `nohup`, for streams that are no terminals. -/
def nohupMain (c : Call) : Action Nat := do
  let a ← c.readInFront [] 125
  if a.operands.isEmpty then c.misuse 125 "missing operand"
  perform (.handle 1 .ignore)
  let name := a.operands.headD ""
  runOr c a.operands c.environment fun e ↦ s!"failed to run command {quoted name}: {e.text}"

/-- The program `nice`, where all processes run alike. -/
def niceMain (c : Call) : Action Nat := do
  let old (text : String) : Bool :=
    let digits := (text.toList.drop 1).dropWhile fun c ↦ c == '-' || c == '+'
    text.startsWith "-" && !digits.isEmpty && digits.all Char.isDigit
  let args := c.args.map fun text ↦ text
  let (given, args) :=
    match args with
    | first :: rest =>
        if old first then (some (String.ofList (first.toList.drop 1)), rest) else (none, args)
    | [] => (none, [])
  let a ← { c with args }.readInFront [(Choice.flag 'n' "adjustment").valued] 125
  let given := (a.value? "n").orElse fun _ ↦ given
  let adjustment ←
    match given with
    | none => pure (10 : Int)
    | some text =>
        match text.toInt?.orElse fun _ ↦ (String.ofList (text.toList.drop 1)).toInt? with
        | some n => pure n
        | none => c.die 125 s!"invalid adjustment {quoted text}"
  if a.operands.isEmpty then
    if given.isSome then c.misuse 125 "a command must be given with an adjustment"
    c.putOr 125 "write error" (encode "0\n")
    return 0
  if adjustment < 0 then
    c.warn s!"cannot set niceness: {Errno.accessDenied.text}"
  let name := a.operands.headD ""
  runOr c a.operands c.environment fun e ↦ s!"{quoted name}: {e.text}"

/-! ## Waiting -/

/-- The number of seconds in the unit that a letter stands for. -/
def secondsOf? : Bytes → Option Nat
  | [] => some 1
  | [0x73] => some 1
  | [0x6D] => some 60
  | [0x68] => some 3600
  | [0x64] => some 86400
  | _ => none

/-- An interval in millionths of a second, rounded up. -/
def interval? (text : String) : Option Nat := do
  let r ← Fraction.read .extended (encode text)
  let unit ← secondsOf? r.rest
  match r.value with
  | .finite negative m e =>
      if negative && m ≠ 0 then none
      else
        let (a, b) := Fraction.quotient m e
        some ((a * unit * 1000000 + b - 1) / b)
  | .infinite false => some (wordModulus * wordModulus)
  | _ => none

/-- The program `sleep`. -/
def sleepMain (c : Call) : Action Nat := do
  let a ← c.read [] 1
  if a.operands.isEmpty then c.missingOperand
  let mut total := 0
  let mut good := true
  for text in a.operands do
    match interval? text with
    | some time => total := total + time
    | none =>
        c.warn s!"invalid time interval {quoted text}"
        good := false
  if !good then c.seeHelp 1
  match ← number .clock with
  | .ok now =>
      perform (.sleepUntil (now + total))
      return 0
  | .error _ => return 1

end PipeShell.Userland

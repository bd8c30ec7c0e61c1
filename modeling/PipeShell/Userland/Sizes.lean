import PipeShell.Userland.Options
import PipeShell.Userland.Characters

/-!
# Sizes as arguments

A number and a letter that multiplies it: `k`, `M` and so on count in powers of
1024, or in powers of 1000 with a `B` behind them.
-/

namespace PipeShell.Userland

/-- Why a text is no size. -/
inductive SizeError where
  | malformed
  /-- What stands behind the number multiplies nothing. -/
  | suffix
  | tooLarge
  deriving DecidableEq, Repr

/-- The powers that letters stand for. -/
def powerOf? (c : UInt8) : Option Nat :=
  [(0x6B, 1), (0x4B, 1), (0x6D, 2), (0x4D, 2), (0x67, 3), (0x47, 3), (0x74, 4), (0x54, 4), (0x50, 5),
    (0x45, 6), (0x5A, 7), (0x59, 8), (0x52, 9), (0x51, 10)].lookup c

/-- The factor that a suffix stands for, where only some letters are known. -/
def factorOf? (letters : String) (suffix : Bytes) : Option Nat :=
  match suffix with
  | [] => some 1
  | c :: rest =>
      if !(encode letters).contains c then none
      else if c == 0x62 then (if rest.isEmpty then some 512 else none)
      else if c == 0x63 then (if rest.isEmpty then some 1 else none)
      else if c == 0x77 then (if rest.isEmpty then some 2 else none)
      else
        match powerOf? c with
        | none => none
        | some power =>
            if rest.isEmpty || rest == encode "iB" then some (Nat.pow 1024 power)
            else if rest == encode "B" || rest == encode "D" then some (Nat.pow 1000 power)
            else none

/-- Reads a size. -/
def readSize (letters : String) (text : String) : Except SizeError Nat :=
  let bytes := (encode text).dropWhile isSpace
  let bytes := if bytes.head? == some 0x2B then bytes.drop 1 else bytes
  let digits := bytes.takeWhile isDigit
  let suffix := bytes.drop digits.length
  if digits.isEmpty && (suffix.isEmpty || !(encode letters).contains (suffix.headD 0)) then
    .error .malformed
  else
    match factorOf? letters suffix with
    | none => .error .suffix
    | some factor =>
        let n := (if digits.isEmpty then 1 else valueOf 10 digits) * factor
        if n < wordModulus then .ok n else .error .tooLarge

/-- Reads a whole number, which can have a sign. -/
def readWhole (text : String) : Except SizeError Int :=
  let bytes := (encode text).dropWhile isSpace
  let negative := bytes.head? == some 0x2D
  let bytes := if negative || bytes.head? == some 0x2B then bytes.drop 1 else bytes
  let digits := bytes.takeWhile isDigit
  if digits.isEmpty then .error .malformed
  else if digits.length < bytes.length then .error .suffix
  else
    let n : Int := valueOf 10 digits
    let n := if negative then -n else n
    if -halfModulus ≤ n && n < halfModulus then .ok n else .error .tooLarge

/-- What is wrong with a number that is to be between two others. -/
def rangeFault? (what text : String) (least most : Int) : Except SizeError Int → Option Complaint
  | .ok n =>
      if least ≤ n && n ≤ most then none
      else if 0x3FFFFFFF < n || n < -0x40000000 then fault (some .overflow)
      else fault (some .outOfRange)
  | .error .tooLarge => fault (some .overflow)
  | .error _ => fault none
where
  fault (e : Option Errno) : Option Complaint :=
    let reason := (e.map fun e ↦ s!": {e.text}").getD ""
    some (.plain s!"{what}: {quoted text}{reason}")

/-- What is wrong with a text that is to be a size between two others. -/
def sizeFault? (what letters : String) (least most : Nat) (text : String) : Option Complaint :=
  rangeFault? what text least most ((readSize letters text).map fun n ↦ (n : Int))

/-- What is wrong with a text that is to be a whole number between two others. -/
def wholeFault? (what : String) (least most : Int) (text : String) : Option Complaint :=
  rangeFault? what text least most (readWhole text)

/-- The size that a text stands for. -/
def sizeOf (letters text : String) : Nat :=
  (readSize letters text).toOption.getD 0

/-- The whole number that a text stands for. -/
def wholeOf (text : String) : Int :=
  (readWhole text).toOption.getD 0

/-- The letters of sizes that count lines or bytes. -/
def countLetters : String := "bkKmMGTPEZYRQ"

end PipeShell.Userland

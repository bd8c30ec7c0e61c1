import PipeShell.Userland.Regex

/-!
# Editing commands

What a script for the stream editor says: each command is for all lines, for one
line, or for ranges of lines, or for all the others.  Commands stand in a row,
and jumps lead to a place in it.
-/

namespace PipeShell.Userland.Editor

/-- What a line is searched for. -/
structure Pattern where
  style : Regex.Style
  regex : Regex
  /-- The number of its groups. -/
  groups : Nat

/-- Says which lines are meant. -/
inductive Address where
  | line (n : Nat)
  /-- The first line meant, and after how many lines the next one is. -/
  | every (first step : Nat)
  | last
  /-- The lines in which a pattern is found; if none is given, the last one that
  has been searched for. -/
  | matching (p : Option Pattern)

/-- Says which line is the last one of a range. -/
inductive RangeEnd where
  | address (a : Address)
  /-- The one so many lines behind the first. -/
  | after (count : Nat)
  /-- The next one whose number is a multiple. -/
  | multiple (n : Nat)

/-- The lines that a command is for. -/
inductive Selection where
  | all
  | one (a : Address)
  | range (first : Address) (last : RangeEnd)

/-- How the case of letters is changed. -/
inductive Casing where
  | same
  | upper
  | lower
  deriving DecidableEq, Repr

/-- Some text and then what a group has matched, with the case of their letters
changed, and that of the first letter in its own way. -/
structure Part where
  text : Bytes
  group : Option Nat
  casing : Casing
  first : Casing

/-- Puts something else in the place of what is found. -/
structure Substitution where
  pattern : Option Pattern
  parts : List Part
  /-- The number of the first match that is replaced. -/
  number : Nat
  /-- Whether the matches behind it are replaced as well. -/
  everywhere : Bool
  /-- Whether the line is shown afterwards. -/
  shows : Bool
  /-- Whether the line is shown before it is run. -/
  showsBefore : Bool
  /-- Whether the line is run as a command of the shell. -/
  runs : Bool
  /-- Where the line is written to. -/
  sink : Option Nat

/-- When a jump is made. -/
inductive JumpCondition where
  | always
  | substituted
  | notSubstituted
  deriving DecidableEq, Repr

/-- What a command does. -/
inductive Verb where
  /-- Begins a block; `next` is the place behind it. -/
  | opening (next : Nat)
  | closing
  | showNumber
  | showName
  | append (text : Bytes)
  | insert (text : Bytes)
  | change (text : Bytes)
  | jump (condition : JumpCondition) (target : Nat)
  | delete
  | deleteFirst
  /-- Runs a command of the shell: the text, or else the line. -/
  | execute (command : Option Bytes)
  | recall
  | recallMore
  | hold
  | holdMore
  | exchange
  /-- Shows the line so that nothing in it is hidden. -/
  | reveal (width : Option Nat)
  | next
  | nextMore
  | print
  | printFirst
  | quit (code : Nat)
  | leave (code : Nat)
  | readFile (path : Bytes)
  | readLine (source : Nat)
  | substitute (s : Substitution)
  | write (sink : Nat)
  | writeFirst (sink : Nat)
  | translate (table : List (UInt8 × UInt8))
  | empty

/-- A command and the lines it is for, or not for. -/
structure Command where
  selection : Selection
  negated : Bool
  verb : Verb

instance : Inhabited Command := ⟨⟨.all, false, .closing⟩⟩

end PipeShell.Userland.Editor

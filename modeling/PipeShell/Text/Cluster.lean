import PipeShell.Text.JoiningTable
import PipeShell.Text.Utf8

/-!
# Clusters of characters

What a reader takes for one character may be spelled by several: a letter and
its marks, a syllable, a flag, a picture joined from others.  `Cluster.cut` cuts
a text into such clusters.  Whether there is a boundary is decided from the last
character and from how the cluster before it ends.

`Cluster.erase` carries out the erasing characters of a typed line: each takes
the cluster before it away.
-/

namespace PipeShell.Cluster

/-- The part that a character plays in a cluster. -/
inductive Part where
  | carriageReturn
  | lineFeed
  | control
  | extender
  /-- An extender that keeps letters apart. -/
  | nonJoiner
  /-- An extender that joins letters. -/
  | linker
  | joiner
  | spacingMark
  | prefixedMark
  | consonant
  | picture
  /-- One of the two letters of a flag. -/
  | flagHalf
  | leading
  | vowel
  | trailing
  /-- A syllable that a trailing letter may close. -/
  | openSyllable
  | closedSyllable
  | other
  deriving DecidableEq, Repr

/-- Whether a code point is in one of some ranges. -/
def within (ranges : List (Nat × Nat)) (n : Nat) : Bool :=
  ranges.any fun (first, last) ↦ first ≤ n && n ≤ last

/-- The part of a character. -/
def partOf (c : Char) : Part :=
  let n := c.toNat
  if n = 0x0D then .carriageReturn
  else if n = 0x0A then .lineFeed
  else if 0x20 ≤ n && n < 0x7F then .other
  else if n = 0x200C then .nonJoiner
  else if n = 0x200D then .joiner
  else if 0x1100 ≤ n && n ≤ 0x115F || 0xA960 ≤ n && n ≤ 0xA97C then .leading
  else if 0x1160 ≤ n && n ≤ 0x11A7 || 0xD7B0 ≤ n && n ≤ 0xD7C6 then .vowel
  else if 0x11A8 ≤ n && n ≤ 0x11FF || 0xD7CB ≤ n && n ≤ 0xD7FB then .trailing
  else if 0xAC00 ≤ n && n ≤ 0xD7A3 then
    if (n - 0xAC00) % 28 = 0 then .openSyllable else .closedSyllable
  else if 0x1F1E6 ≤ n && n ≤ 0x1F1FF then .flagHalf
  else if within controls n then .control
  else if within extenders n then .extender
  else if within linkers n then .linker
  else if within spacingMarks n then .spacingMark
  else if within prefixedMarks n then .prefixedMark
  else if within consonants n then .consonant
  else if within pictures n then .picture
  else .other

/-- How a cluster ends. -/
structure Ending where
  last : Part
  /-- Whether it ends in a picture and its extenders. -/
  pictured : Bool
  /-- Whether it ends in a picture, its extenders and a joiner. -/
  joined : Bool
  /-- Whether it ends in a consonant and what extends that. -/
  lettered : Bool
  /-- Whether a linker is among that. -/
  linked : Bool
  /-- Whether it ends in the first half of a flag. -/
  halved : Bool
  deriving DecidableEq, Repr

namespace Part

/-- Whether a character stands for itself only. -/
def isAlone : Part → Bool
  | .carriageReturn | .lineFeed | .control => true
  | _ => false

/-- Whether a character extends the one before it. -/
def isExtender : Part → Bool
  | .extender | .nonJoiner | .linker => true
  | _ => false

/-- Whether two letters make up a syllable. -/
def joinsSyllable : Part → Part → Bool
  | .leading, .leading | .leading, .vowel | .leading, .openSyllable => true
  | .leading, .closedSyllable => true
  | .openSyllable, .vowel | .openSyllable, .trailing => true
  | .vowel, .vowel | .vowel, .trailing => true
  | .closedSyllable, .trailing | .trailing, .trailing => true
  | _, _ => false

end Part

namespace Ending

/-- The ending of a cluster of one character. -/
def first (p : Part) : Ending :=
  ⟨p, p == .picture, false, p == .consonant, false, p == .flagHalf⟩

/-- The ending of a cluster with one more character. -/
def add (e : Ending) (p : Part) : Ending :=
  let extending := p == .extender || p == .linker || p == .joiner
  { last := p
    pictured := p == .picture || e.pictured && p.isExtender
    joined := e.pictured && p == .joiner
    lettered := p == .consonant || e.lettered && extending
    linked := e.lettered && extending && (e.linked || p == .linker)
    halved := p == .flagHalf && !e.halved }

/-- Whether a cluster goes on with a character. -/
def goesOn (e : Ending) (p : Part) : Bool :=
  if e.last == .carriageReturn && p == .lineFeed then true
  else if e.last.isAlone || p.isAlone then false
  else
    e.last.joinsSyllable p || p.isExtender || p == .joiner || p == .spacingMark ||
      e.last == .prefixedMark || e.linked && p == .consonant || e.joined && p == .picture ||
      e.halved && p == .flagHalf

end Ending

/-- Cuts what follows a cluster; the characters of that one come last first. -/
def cutFrom (cluster : List Char) (e : Ending) : List Char → List (List Char)
  | [] => [cluster.reverse]
  | c :: rest =>
      let p := partOf c
      if e.goesOn p then cutFrom (c :: cluster) (e.add p) rest
      else cluster.reverse :: cutFrom [c] (.first p) rest

/-- The clusters of a text. -/
def cut : List Char → List (List Char)
  | [] => []
  | c :: rest => cutFrom [c] (.first (partOf c)) rest

/-- Cutting loses nothing. -/
theorem flatten_cutFrom (text cluster : List Char) (e : Ending) :
    (cutFrom cluster e text).flatten = cluster.reverse ++ text := by
  induction text generalizing cluster e with
  | nil => simp [cutFrom]
  | cons c rest ih =>
    simp only [cutFrom]
    split <;> simp [ih]

theorem flatten_cut (text : List Char) : (cut text).flatten = text := by
  cases text with
  | nil => rfl
  | cons c rest => simp [cut, flatten_cutFrom]

/-- The character that erases the cluster before it. -/
def eraser : Char := '\x08'

/-- A line as it is being typed. -/
structure Typed where
  /-- What stands there, the last byte first. -/
  bytes : Bytes
  /-- The sizes of its clusters, the last one first.  A size is kept in one
  byte. -/
  sizes : List Nat

/-- Types a cluster. -/
def Typed.add (t : Typed) (cluster : List Char) : Typed :=
  if cluster = [eraser] then
    match t.sizes with
    | [] => t
    | size :: rest => ⟨t.bytes.drop size, rest⟩
  else
    let bytes := encode (String.ofList cluster)
    ⟨bytes.reverse ++ t.bytes, bytes.length % 256 :: t.sizes⟩

/-- What is left of a line when everything erased has been taken out. -/
def erase (text : String) : Bytes :=
  if text.contains eraser then ((cut text.toList).foldl Typed.add ⟨[], []⟩).bytes.reverse
  else encode text

end PipeShell.Cluster

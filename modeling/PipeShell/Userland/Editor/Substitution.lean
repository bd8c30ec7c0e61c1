import PipeShell.Userland.Editor.Command

/-!
# Substitution

What comes of a line when matches of a pattern are replaced.  A match of nothing
does not count directly behind another match.
-/

namespace PipeShell.Userland.Editor

def Casing.apply : Casing → UInt8 → UInt8
  | .same, b => b
  | .upper, b => toUpper b
  | .lower, b => toLower b

/-- A text with the case of its letters changed. -/
def recase (casing first : Casing) : Bytes → Bytes
  | [] => []
  | b :: rest =>
      (if first = .same then casing.apply b else first.apply b) :: rest.map casing.apply

/-- The text that is put in the place of a match.  A change of the first letter that
finds none goes on to the next part, unless that has its own. -/
def expand (matched : Bytes) (groups : Regex.Groups) : Casing → List Part → Bytes
  | _, [] => []
  | left, p :: rest =>
      let first := if p.first = .same then left else p.first
      let text := recase p.casing first p.text
      let first := if p.text.isEmpty then first else .same
      match p.group with
      | none => text ++ expand matched groups .same rest
      | some n =>
          let found := if n = 0 then matched else (groups.lookup n).getD []
          let left := if found.isEmpty && p.first != .same then first else .same
          text ++ recase p.casing first found ++ expand matched groups left rest

/-- A substitution under way: what has been made of the line, the last byte first,
and the number of matches found. -/
structure Substituting where
  made : Bytes
  count : Nat
  /-- Whether a match ends here. -/
  behindMatch : Bool
  replaced : Bool

/-- Replaces matches from a place on; `limit` bounds their number. -/
def Substitution.run (s : Substitution) (pattern : Pattern) :
    Nat → Substituting → Regex.Place → Substituting
  | 0, state, p => { state with made := p.rest.reverse ++ state.made }
  | limit + 1, state, p =>
      match Regex.search pattern.style pattern.regex p.rest.length p with
      | none => { state with made := p.rest.reverse ++ state.made }
      | some (q, m) =>
          let skipped := p.rest.take (p.rest.length - q.rest.length)
          let matched := q.rest.take (q.rest.length - m.rest.length)
          let made := skipped.reverse ++ state.made
          let behind : Regex.Place := ⟨matched.reverse ++ q.before, m.rest⟩
          /- Goes on behind the match, and one byte further if it is empty. -/
          let goOn (made : Bytes) (count : Nat) (replaced : Bool) : Substituting :=
            if !matched.isEmpty then s.run pattern limit ⟨made, count, true, replaced⟩ behind
            else
              match behind.rest with
              | [] => ⟨made, count, false, replaced⟩
              | b :: rest =>
                  s.run pattern limit ⟨b :: made, count, false, replaced⟩ ⟨b :: behind.before, rest⟩
          if state.behindMatch && skipped.isEmpty && matched.isEmpty then
            goOn made state.count state.replaced
          else
            let count := state.count + 1
            if count < s.number then goOn (matched.reverse ++ made) count state.replaced
            else
              let made := (expand matched m.groups .same s.parts).reverse ++ made
              if s.everywhere then goOn made count true
              else ⟨behind.rest.reverse ++ made, count, false, true⟩

/-- The line after a substitution, if anything has been replaced. -/
def Substitution.apply? (s : Substitution) (pattern : Pattern) (line : Bytes) : Option Bytes :=
  let result := s.run pattern (line.length + 2) ⟨[], 0, false, false⟩ ⟨[], line⟩
  if result.replaced then some result.made.reverse else none

/-- Whether a pattern is found in a line. -/
def Pattern.isIn (p : Pattern) (line : Bytes) : Bool :=
  (Regex.search p.style p.regex line.length ⟨[], line⟩).isSome

end PipeShell.Userland.Editor

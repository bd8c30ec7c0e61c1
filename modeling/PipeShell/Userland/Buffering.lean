import PipeShell.Userland.Action

/-!
# Holding back what is written

Most programs do not write to standard output at once: what they write is held back until
there is enough of it, until something is said on standard error, or until the program
ends.  So a program may append to the very file that it reads.
-/

namespace PipeShell

namespace Userland

/-- What a program holds back. -/
structure Held where
  bytes : Bytes
  /-- What the last write was refused for. -/
  refused : Option Errno

namespace Held

/-- The number of bytes that are held back at most. -/
def limit : Nat := 4096

/-- Nothing yet. -/
def none : Held :=
  ⟨[], .none⟩

/-- How many of some bytes are written at once. -/
def due (bytes : Bytes) : Nat :=
  if bytes.length ≤ limit then 0 else bytes.length - bytes.length % limit

end Held

end Userland

open Userland in
/-- The program that does what another does, but holds back what that writes to standard
output.  If this is refused at the end, `failed` is what happens then, with the reason if
there is one still. -/
def Program.heldBack (failed : Option Errno → Program) (held : Held) :
    Program → Program
  | .finish (.signalled signal) => .finish (.signalled signal)
  | .finish status =>
      .put 1 held.bytes fun
        | some e => failed (some e)
        | .none =>
            match held.refused with
            | some e => failed (if e = .badDescriptor then some e else .none)
            | .none => .finish status
  | .call request next => .call request fun reply ↦ (next reply).heldBack failed held
  | .put fd data next =>
      if fd = 1 then
        let bytes := held.bytes ++ data
        let due := Held.due bytes
        if due = 0 then (next .none).heldBack failed { held with bytes }
        else
          .put 1 (bytes.take due) fun
            | .none => (next .none).heldBack failed { held with bytes := bytes.drop due }
            | some e => (next (some e)).heldBack failed .none
      else if fd = 2 then
        .put 1 held.bytes fun refused ↦
          .put 2 data fun e ↦ (next e).heldBack failed ⟨[], refused.or held.refused⟩
      else .put fd data fun e ↦ (next e).heldBack failed held
  | .pump fd limit target digest state next =>
      .put 1 (if target = 1 then held.bytes else []) fun refused ↦
        let held := if target = 1 then ⟨[], refused.or held.refused⟩ else held
        .pump fd limit target digest state fun state e ↦ (next state e).heldBack failed held
  | .flood fd data next =>
      .put 1 held.bytes fun refused ↦
        .flood fd data fun e ↦ (next e).heldBack failed ⟨[], refused.or held.refused⟩
  | .fork child next => .fork child fun pid ↦ (next pid).heldBack failed held

namespace Userland

/-- A program that holds back what it writes, and ends with a code if that cannot be
written. -/
def holdingBack (code : Nat) (main : Call → Action Nat) (c : Call) : Action Nat :=
  let failed (e : Option Errno) : Program :=
    let reason := e.elim "" fun e ↦ s!": {e.text}"
    (c.die code ("write error" ++ reason) : Action Nat).toProgram
  fun next ↦ (main c next).heldBack failed .none

end Userland

end PipeShell

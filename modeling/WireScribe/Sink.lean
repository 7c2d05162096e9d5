import WireScribe.Call

/-!
# WireScribe.Sink — writers

A writer is a state that takes calls one at a time. A call is either taken,
which gives the next state, or refused because of its size, which leaves the
state as it was. Work on a writer is an `EStateM` action, so what was written
before a failure stays written.

`Recording` is the writer that takes every call and keeps it.
-/

namespace WireScribe

/-- The states of a writer, with what a call does to them. -/
class Sink (σ : Type) where
  /-- Takes a call, or refuses it because of its size. -/
  accept : Call → σ → Except Oversize σ

namespace Sink

variable {σ : Type} [Sink σ]

/-- Hands one call to the writer. A refused call leaves the writer alone. -/
def write (c : Call) : EStateM Oversize σ Unit := fun s =>
  match accept c s with
  | .ok s' => .ok () s'
  | .error e => .error e s

/-- Hands calls to the writer in order, up to the first that is refused. -/
def writeAll : List Call → EStateM Oversize σ Unit
  | [] => pure ()
  | c :: cs => do
    write c
    writeAll cs

end Sink

/-- A writer that keeps every call. -/
structure Recording where
  /-- The calls so far, the oldest first. -/
  calls : List Call := []
deriving Repr, DecidableEq

instance : Sink Recording where
  accept c r := .ok ⟨r.calls ++ [c]⟩

/-- A recording takes every call at its end. -/
@[simp] theorem Sink.write_recording (c : Call) (r : Recording) :
    write c r = .ok () ⟨r.calls ++ [c]⟩ := rfl

/-- A recording takes calls in order. -/
@[simp] theorem Sink.writeAll_recording (cs : List Call) (r : Recording) :
    writeAll cs r = .ok () ⟨r.calls ++ cs⟩ := by
  induction cs generalizing r with
  | nil => simp [writeAll, pure, EStateM.pure]
  | cons c cs ih => simp [writeAll, bind, EStateM.bind, ih]

end WireScribe

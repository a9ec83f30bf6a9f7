import Stencil.Failure
import Stencil.Generated.Code

/-!
# Cancelled requests

Whoever asks for a compilation can lose interest while it runs. A compilation looks at
that only at certain points, so all that matters about a request is at which of them it is
already cancelled.
-/

namespace Stencil

/-- **A point at which a compilation may be given up.** -/
inductive Checkpoint where
  /-- Before the units are read in a mode. -/
  | beforePass (mode : Mode)
  /-- Before one unit is read in a mode, by its place among the components. -/
  | beforeUnit (mode : Mode) (index : Nat)
  /-- Before generated files are read: those of the declarations, or the final ones. -/
  | beforeReading (link : Bool)
  /-- Before generated files are checked. -/
  | beforeChecking (link : Bool)
  deriving DecidableEq, Repr

/-- At which points a request is cancelled. -/
abbrev Interrupts := Checkpoint → Bool

namespace Interrupts

/-- A request that nobody cancels. -/
def never : Interrupts := fun _ => false

/-- A request that was cancelled from the start. -/
def always : Interrupts := fun _ => true

/-- Gives up at a point with the name of the work under way, if the request is cancelled
there. -/
def check (stop : Interrupts) (p : Checkpoint) (work : Bytes) : Except Failure Unit :=
  if stop p then .error (Failure.cancelled work) else .ok ()

end Interrupts

end Stencil

import Stencil.Text.Bytes

/-!
# Phases of a compilation

A compilation tells its observers where it is.
-/

namespace Stencil

/-- **A phase of a compilation.** -/
inductive Phase where
  /-- The declarations of the units are read. -/
  | declaring
  /-- The declarations are compiled. -/
  | linking
  /-- The units are read in full. -/
  | resolving
  /-- The full code is compiled. -/
  | emitting
  /-- There is an answer. -/
  | done
  deriving DecidableEq, Repr

namespace Phase

/-- The phases in order. -/
def all : List Phase := [.declaring, .linking, .resolving, .emitting, .done]

/-- The phase of a number. -/
def ofInt? (n : Int) : Option Phase := if n < 0 then none else all[n.toNat]?

/-- What a reader is told about a phase. -/
def label : Phase → Bytes
  | .declaring => "Preparing Project"
  | .linking => "Linking Declarations"
  | .resolving => "Resolving Components"
  | .emitting => "Compiling Module"
  | .done => "Done"

/-- The name of a phase. -/
def name : Phase → Bytes
  | .declaring => "declaring"
  | .linking => "linking"
  | .resolving => "resolving"
  | .emitting => "emitting"
  | .done => "done"

/-- What a reader is told about a number that is no phase. -/
def unknownLabel : Bytes := "Unknown"

/-- The name of a number that is no phase. -/
def unknownName : Bytes := "unknown"

end Phase

end Stencil

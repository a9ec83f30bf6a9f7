import Stencil.Source.Unit

/-!
# Finding units by path

A `UnitIndex` stands in for a file system over the units of one batch: it answers
which unit is at a path, and never lists anything. A path that occurs twice finds
the later unit.

The imports units that apply to a unit are those in its directory and in every
directory above, outermost first.
-/

namespace Stencil

open Bytes

/-- **The units of a batch, to be found by path.** -/
structure UnitIndex where
  /-- The units, in batch order. -/
  units : List SourceUnit
  deriving DecidableEq, Repr

namespace UnitIndex

/-- The index over no units. -/
def empty : UnitIndex := ⟨[]⟩

/-- The unit whose path is exactly `p`; of several, the last. -/
def find? (ix : UnitIndex) (p : Bytes) : Option SourceUnit :=
  ix.units.reverse.find? fun u => u.path = p

/-- **The unit a path names**, in whatever form the path is written. -/
def resolve (ix : UnitIndex) (p : Bytes) : Option SourceUnit :=
  ix.find? (SourceUnit.normalizePath p)

/-- The component a path names. -/
def component? (ix : UnitIndex) (p : Bytes) : Option SourceUnit :=
  (ix.resolve p).filter SourceUnit.isComponent

/-- A file or directory inside a directory. -/
def inside (dir name : Bytes) : Bytes := trimSuffix dir "/" ++ "/" ++ name

/-- Every directory from `dir` down along the given segments. -/
def pathsDown (dir : Bytes) : List Bytes → List Bytes
  | [] => [dir]
  | seg :: segs => dir :: pathsDown (inside dir seg) segs

/-- **The imports units that apply to the unit at a path**, outermost first. -/
def importsChain (ix : UnitIndex) (p : Bytes) : List SourceUnit :=
  let dir := Path.dir (SourceUnit.normalizePath p)
  (pathsDown "/" (Path.segments dir)).filterMap fun d =>
    ix.resolve (inside d SourceUnit.importsFileName)

end UnitIndex

end Stencil

import Stencil.Catalog.Reference
import Stencil.Diagnostic.HostError

/-!
# The host tools a compilation uses

Compiling needs three things of the host language: reading a file, checking the files of a
package, and writing down what importers of the package have to know. They are a parameter
of every compilation, so that what is said about compilations here holds whatever the host
tools do; `Stencil.Host.Tools` has the ones that are used.
-/

namespace Stencil

/-- A problem that checking reports: where, what, and whether the package has a meaning
all the same. -/
structure HostReport where
  /-- Where. -/
  pos : Position
  /-- What. -/
  message : Bytes
  /-- Whether the package has a meaning all the same. -/
  soft : Bool
  deriving DecidableEq, Repr

/-- **A checked package**, as far as modules are concerned. -/
structure HostPackage where
  /-- The import path. -/
  path : Bytes
  /-- The name. -/
  name : Bytes
  /-- The paths of the packages it imports, sorted. -/
  imports : List Bytes
  /-- The components with their exported parameters. -/
  components : List Component
  /-- The components with all parameters. -/
  localComponents : List Component
  /-- What importers have to know, or why it cannot be written down. -/
  exportData : Except Bytes Bytes

/-- **The host tools.** -/
structure HostTools where
  /-- What is wrong with the grammar of a file, given its name and text. -/
  grammarErrors : Bytes → Bytes → List (Position × Bytes)
  /-- Checks the files of a package of the given path against references, with the bodies
  of functions left out or not. -/
  check : Bytes → Bool → List ModuleSource → List Reference → List HostReport × Option HostPackage

end Stencil

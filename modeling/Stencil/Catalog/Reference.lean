import Stencil.Module

/-!
# References

A reference is a module that later compilations can import: what its envelope says, and
the bytes it was read from.
-/

namespace Stencil

/-- **A module to compile against.** -/
structure Reference where
  /-- The decoded module. -/
  module : Module
  /-- The bytes it was decoded from. -/
  raw : Bytes
  deriving DecidableEq, Repr

namespace Reference

/-- The reference to an encoded module. -/
def ofBytes (data : Bytes) : Except Module.DecodeError Reference :=
  (Module.decode data).map fun m => ⟨m, data⟩

/-- The import path. -/
def path (r : Reference) : Bytes := r.module.path

/-- The name of the package. -/
def name (r : Reference) : Bytes := r.module.name

/-- The paths of the modules it depends on. -/
def imports (r : Reference) : List Bytes := r.module.importList

/-- The components it declares. -/
def components (r : Reference) : List Component := r.module.components

/-- The size of the encoded module. -/
def size (r : Reference) : Nat := r.raw.length

/-- The reference to a path; of several, the last. -/
def find? (refs : List Reference) (path : Bytes) : Option Reference :=
  refs.reverse.find? fun r => r.path = path

end Reference

end Stencil

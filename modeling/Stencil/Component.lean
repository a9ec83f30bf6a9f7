import Stencil.Text.Bytes

/-!
# Component shapes

The shape of a component is what a tag that uses it needs to know: its name, the
route it is served under, and its parameters. Shapes come from modules compiled
earlier and from the batch that is being compiled.
-/

namespace Stencil

/-- One parameter of a component. -/
structure Param where
  /-- The name, which attributes refer to. -/
  name : Bytes
  /-- The type, as text. -/
  type : Bytes
  /-- Whether a literal attribute value is taken as text. -/
  text : Bool := false
  deriving DecidableEq, Repr

/-- **The shape of a component.** -/
structure Component where
  /-- The name of its type. -/
  name : Bytes
  /-- The route it is served under, empty for none. -/
  route : Bytes := []
  /-- Its parameters, in order. -/
  params : List Param := []
  deriving DecidableEq, Repr

/-- The parameter of a name; of several, the last. -/
def Component.param? (c : Component) (name : Bytes) : Option Param :=
  c.params.reverse.find? fun p => p.name = name

/-- What is known about components: given a package path, empty for the package
being compiled, and a type name. -/
abbrev Resolver := Bytes → Bytes → Option Component

/-- **Component shapes by package and name.** -/
structure Shapes where
  /-- The entries, latest first; a later entry hides an earlier one of its package
  and name. -/
  entries : List (Bytes × Component)
  deriving DecidableEq, Repr

namespace Shapes

/-- No shapes at all. -/
def empty : Shapes := ⟨[]⟩

/-- The shapes with one more. -/
def insert (s : Shapes) (pkg : Bytes) (c : Component) : Shapes :=
  ⟨(pkg, c) :: s.entries.filter fun e => !(e.1 = pkg && e.2.name = c.name)⟩

/-- The shapes with the components of a package. -/
def add (s : Shapes) (pkg : Bytes) (cs : List Component) : Shapes :=
  cs.foldl (fun s c => s.insert pkg c) s

/-- The component of a package and name. -/
def component? (s : Shapes) : Resolver := fun pkg name =>
  (s.entries.find? fun e => e.1 = pkg && e.2.name = name).map Prod.snd

/-- How many components are known. -/
def size (s : Shapes) : Nat := s.entries.length

end Shapes

end Stencil

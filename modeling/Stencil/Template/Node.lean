import Stencil.Text.Utf8

/-!
# Markup trees

What a component source says, once read: a `Document` holds its directives and
a body of markup `Node`s. Every part remembers the one-based line it was read
from, because code generated from it is traced back by that line.

Conditionals keep their branches in a list, first condition first, and the
branch without a condition apart. An empty list of nodes and a missing one are
the same thing: an else branch with nothing in it renders like no else branch.
-/

namespace Stencil

/-- How an attribute was given its value. -/
inductive AttrValue where
  /-- Text, quoted or bare of quotes. -/
  | literal (text : Bytes)
  /-- An expression. -/
  | expr (code : Bytes)
  /-- No value at all. -/
  | bare
  deriving DecidableEq, Repr

/-- One attribute of an element. -/
structure Attr where
  /-- The name, as written. -/
  name : Bytes
  /-- The value, if any. -/
  value : AttrValue
  /-- The line of the name. -/
  line : Nat
  deriving DecidableEq, Repr

mutual

/-- **A piece of markup.** -/
inductive Node where
  /-- Literal text. -/
  | text (value : Bytes) (line : Nat)
  /-- An expression whose value is shown. -/
  | expr (code : Bytes) (line : Nat)
  /-- The body of another unit, spliced in. -/
  | splice (path : Bytes) (line : Nat)
  /-- A body repeated as its clause says. -/
  | loop (clause : Bytes) (body : List Node) (line endLine : Nat)
  /-- A conditional: its branches, then the branch without a condition. -/
  | choice (branches : List Branch) (otherwise : List Node) (elseLine endLine : Nat)
  /-- An element or component tag. -/
  | element (tag : Bytes) (attrs : List Attr) (children : List Node) (selfClosing : Bool)
      (line endLine : Nat)

/-- One branch of a conditional. -/
inductive Branch where
  /-- A condition and the body it guards. -/
  | mk (cond : Bytes) (body : List Node) (line : Nat)

end

instance : Inhabited Node := ⟨.text [] 0⟩

instance : Inhabited Branch := ⟨.mk [] [] 0⟩

namespace Branch

/-- The condition of a branch. -/
def cond : Branch → Bytes
  | .mk cond _ _ => cond

/-- What the branch renders. -/
def body : Branch → List Node
  | .mk _ body _ => body

/-- The line of the condition. -/
def line : Branch → Nat
  | .mk _ _ line => line

end Branch

/-- The line a node starts on; a conditional starts with its first condition. -/
def Node.line : Node → Nat
  | .text _ line | .expr _ line | .splice _ line | .loop _ _ line _ | .element _ _ _ _ line _ =>
    line
  | .choice branches _ _ _ => (branches.head?.map Branch.line).getD 0

/-- The route a unit is served under. -/
structure PageDirective where
  /-- The route. -/
  route : Bytes
  /-- The line of the directive. -/
  line : Nat
  deriving DecidableEq, Repr

/-- A package a unit refers to. -/
structure ImportDirective where
  /-- The name it is referred to by, empty for the default. -/
  localName : Bytes
  /-- The import path. -/
  path : Bytes
  /-- The line of the directive. -/
  line : Nat
  /-- Whether the import comes from an imports unit rather than the unit itself. -/
  inherited : Bool := false
  deriving DecidableEq, Repr

/-- A parameter of the component a unit defines. -/
structure ParamDirective where
  /-- The name of the parameter. -/
  name : Bytes
  /-- Its type, as written. -/
  type : Bytes
  /-- The line of the directive. -/
  line : Nat
  deriving DecidableEq, Repr

/-- A block of declarations that is copied into the generated code. -/
structure CodeBlock where
  /-- The lines between the braces. -/
  lines : List Bytes
  /-- The line of the opening brace. -/
  line : Nat
  deriving DecidableEq, Repr

/-- **A component source, read.** -/
structure Document where
  /-- The last page directive, if there is one. -/
  page : Option PageDirective := none
  /-- The imports, in order. -/
  imports : List ImportDirective := []
  /-- The parameters, in order, no two of one name. -/
  params : List ParamDirective := []
  /-- The blocks of declarations, in order. -/
  code : List CodeBlock := []
  /-- The markup. -/
  body : List Node := []

end Stencil

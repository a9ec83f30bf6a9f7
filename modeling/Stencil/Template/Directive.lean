import Stencil.Fault
import Stencil.Host.Identifier
import Stencil.Template.Node

/-!
# Directives

A directive takes the rest of its line and adds to the document: the route of a
page, an import, or a parameter. One that cannot be understood adds nothing and is
reported instead. The last valid page directive wins, and a parameter name can be
declared once.
-/

namespace Stencil

open Bytes

/-- The words that start a directive. -/
inductive DirectiveWord where
  /-- The route the unit is served under. -/
  | page
  /-- A package the unit refers to. -/
  | import_
  /-- A parameter of the component. -/
  | param
  /-- A block of declarations. -/
  | code
  deriving DecidableEq, Repr

/-- The directive a word starts, if any. -/
def DirectiveWord.ofName? (s : Bytes) : Option DirectiveWord :=
  if s = "page" then some .page
  else if s = "import" then some .import_
  else if s = "param" then some .param
  else if s = "code" then some .code
  else none

/-- The parameter names that collide with the receiver and the writer of generated
code. -/
def reservedParams : List Bytes := ["c", "w"]

namespace Document

/-- A page directive: a quoted route that is not empty. -/
def addPage (d : Document) (line : Nat) (rest : Bytes) : Except Fault Document :=
  match Quoted.unquote? rest with
  | some route =>
    if route.isEmpty then .error .noRoute else .ok { d with page := some ⟨route, line⟩ }
  | none => .error .noRoute

/-- An import directive: an optional name and a quoted path that is not empty. The
name is an identifier or the blank one. -/
def addImport (d : Document) (line : Nat) (rest : Bytes) : Except Fault Document :=
  let add (localName literal : Bytes) : Except Fault Document :=
    match Quoted.unquote? literal with
    | some path =>
      if path.isEmpty
          || (!localName.isEmpty && localName ≠ "_" && !Host.isIdentifier localName) then
        .error (.malformedImport rest)
      else .ok { d with imports := d.imports ++ [{ localName, path, line }] }
    | none => .error (.malformedImport rest)
  match fields rest with
  | [literal] => add [] literal
  | [localName, literal] => add localName literal
  | _ => .error .noImportPath

/-- A parameter directive: a name, a blank and a type. -/
def addParam (d : Document) (line : Nat) (rest : Bytes) : Except Fault Document :=
  let (name, after) := cut (ch ' ') rest
  let type := trim after
  if !Host.isIdentifier name || type.isEmpty then .error .malformedParam
  else if reservedParams.contains name then .error (.reservedParam name)
  else
    match d.params.find? fun p => p.name = name with
    | some first => .error (.duplicateParam name first.line)
    | none => .ok { d with params := d.params ++ [{ name, type, line }] }

end Document

end Stencil

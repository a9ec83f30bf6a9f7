import Stencil.Text.Path
import Stencil.Text.Quoted

/-!
# Units of a batch

A batch is a list of named texts. A `SourceUnit` is one of them in normal form: its
path is clean and starts at the root, its text has no carriage returns and no
leading white space. What a unit contributes depends on its file name alone: units
named `_Imports.tmpl` only lend imports to the components around and below them,
every other unit defines a component.

One component of a batch is its root. The root is served under a route even when it
does not say so itself: a page directive is put in front of its text, which moves
everything in it down by `injectedLines` lines.
-/

namespace Stencil

open Bytes

/-- What a unit contributes to its batch. -/
inductive UnitKind where
  /-- A component. -/
  | component
  /-- Imports for the components in its directory and below. -/
  | imports
  deriving DecidableEq, Repr

/-- The name of a kind of unit. -/
def UnitKind.name : UnitKind → Bytes
  | .component => "component"
  | .imports => "imports"

/-- Whether a unit is the root of its batch. -/
inductive Role where
  /-- Any unit but the root. -/
  | component
  /-- The root. -/
  | root
  deriving DecidableEq, Repr

/-- The name of a role. -/
def Role.name : Role → Bytes
  | .component => "component"
  | .root => "root"

/-- **One text of a batch, in normal form.** -/
structure SourceUnit where
  /-- The clean path, starting at the root. -/
  path : Bytes
  /-- The text, without carriage returns and leading white space. -/
  text : Bytes
  /-- What the unit contributes. -/
  kind : UnitKind
  /-- Whether it is the root. -/
  role : Role := .component
  deriving DecidableEq, Repr

namespace SourceUnit

/-- The file extension of component sources. -/
def extension : Bytes := ".tmpl"

/-- The file name of units that only contribute imports. -/
def importsFileName : Bytes := "_Imports.tmpl"

/-- The normal form of a path: trimmed, with slashes only, clean and rooted. -/
def normalizePath (p : Bytes) : Bytes :=
  Path.clean (slash :: (trim p).map fun c => if c = backslash then slash else c)

/-- The normal form of a text. -/
def normalizeText (s : Bytes) : Bytes :=
  (s.filter (· ≠ 0x0d)).dropWhile isSpace

/-- The unit of a file. -/
def ofFile (path text : Bytes) : SourceUnit :=
  let p := normalizePath path
  { path := p
    text := normalizeText text
    kind := if Path.base p = importsFileName then .imports else .component }

/-- The file name without its extension. -/
def name (u : SourceUnit) : Bytes := trimSuffix (Path.base u.path) (Path.ext u.path)

/-- The directory of the unit. -/
def dir (u : SourceUnit) : Bytes := Path.dir u.path

/-- Path, kind and role on one line. -/
def render (u : SourceUnit) : Bytes :=
  u.path ++ " (" ++ u.kind.name ++ ", " ++ u.role.name ++ ")"

/-- Whether the unit defines a component. -/
def isComponent (u : SourceUnit) : Bool := u.kind = .component

/-- Which unit of a batch is the root: the component at the given path, or the first
component when no path is given or nothing is there. -/
def rootIndex? (units : List SourceUnit) (root : Bytes) : Option Nat :=
  let want := normalizePath root
  let named := if root.isEmpty then none
    else units.findIdx? fun u => u.isComponent && u.path = want
  named.orElse fun _ => units.findIdx? isComponent

/-- **The batch with exactly its root marked as such.** -/
def markRoot (units : List SourceUnit) (root : Bytes) : List SourceUnit :=
  let index := rootIndex? units root
  units.mapIdx fun i u => { u with role := if index = some i then .root else .component }

/-- The line put in front of the root's text. -/
def routeDirective (route : Bytes) : Bytes := "@page " ++ Quoted.quote route ++ [newline]

/-- How many lines are put in front of a unit's text. -/
def injectedLines : Role → Nat
  | .root => newlines (routeDirective "/")
  | .component => 0

/-- The text that is read for a unit of a batch served under `route`. -/
def input (u : SourceUnit) (route : Bytes) : Bytes :=
  match u.role with
  | .root => routeDirective route ++ u.text
  | .component => u.text

end SourceUnit

end Stencil

import Stencil.Component
import Stencil.Module.Msgpack
import Stencil.Text.Quoted

/-!
# Modules

A module is a compiled batch: the Go package the batch became, as export data for later
compilations, and what they need to know besides – where the package lives, which
packages it imports, its sources, and the shapes of its components. Modules are files;
`Module.encode` writes one and `Module.decode` reads it, whatever follows it.
-/

namespace Stencil

open Msgpack

/-- One generated file of a module. -/
structure ModuleSource where
  /-- The name of the file. -/
  name : Bytes
  /-- The code. -/
  code : Bytes
  deriving DecidableEq, Repr

/-- **A compiled batch.** -/
structure Module where
  /-- The name of the layout. -/
  format : Bytes
  /-- The import path of the package. -/
  path : Bytes
  /-- The name of the package. -/
  name : Bytes
  /-- The import paths of the packages it needs; none when nothing is said about them. -/
  imports : Option (List Bytes)
  /-- The exported declarations, as a later compilation reads them. -/
  exportData : Bytes
  /-- The generated files. -/
  sources : List ModuleSource
  /-- The components. -/
  components : List Component
  deriving DecidableEq, Repr

namespace Module

/-- The name of the layout described here. -/
def currentFormat : Bytes := "templc/module/v1"

/-- A module about which nothing is known. -/
def zero : Module := ⟨[], [], [], none, [], [], []⟩

/-- The packages the module needs. -/
def importList (m : Module) : List Bytes := m.imports.getD []

/-- The first component of a name. -/
def component? (m : Module) (name : Bytes) : Option Component :=
  m.components.find? fun c => c.name = name

/-! ## Writing -/

/-- A member that is left out when it says what is so by default. -/
def optionalMember (isDefault : Bool) (name value : Bytes) : List (Bytes × Bytes) :=
  if isDefault then [] else [(name, value)]

/-- A member that is always written. -/
def member (name value : Bytes) : Bytes × Bytes := (name, value)

/-- A parameter. -/
def encodeParam (p : Param) : Bytes :=
  putMap (member "name" (putText p.name) :: member "type" (putText p.type)
    :: optionalMember (!p.text) "text" putTrue)

/-- A component. -/
def encodeComponent (c : Component) : Bytes :=
  putMap (member "name" (putText c.name) :: optionalMember c.route.isEmpty "route" (putText c.route)
    ++ optionalMember c.params.isEmpty "params" (putArray (c.params.map encodeParam)))

/-- A source. -/
def encodeSource (s : ModuleSource) : Bytes :=
  putMap [member "name" (putText s.name), member "code" (putText s.code)]

/-- The imports of a module. -/
def encodeImports : Option (List Bytes) → Bytes
  | none => putNil
  | some l => putArray (l.map putText)

/-- **The file of a module.** -/
def encode (m : Module) : Bytes :=
  putMap (member "format" (putText m.format) :: member "path" (putText m.path)
    :: member "name" (putText m.name) :: member "imports" (encodeImports m.imports)
    :: member "export_data" (putBinary m.exportData)
    :: optionalMember m.sources.isEmpty "sources" (putArray (m.sources.map encodeSource))
    ++ optionalMember m.components.isEmpty "components"
      (putArray (m.components.map encodeComponent)))

/-! ## Reading -/

/-- A text member. -/
def textField (set : σ → Bytes → σ) (v : σ) : Parser σ := fun s =>
  (text s).map fun (t, r) => (set v t, r)

/-- A list of records as a member. -/
def recordsField (fs : Fields α) (zero : α) (get : σ → Slots α) (set : σ → Slots α → σ) (v : σ) :
    Parser σ := fun s =>
  (slots (record fs zero) zero (get v) s).map fun (l, r) => (set v l, r)

/-- The members of a parameter. -/
def paramFields : Fields Param :=
  [("name", textField fun p t => { p with name := t }),
    ("type", textField fun p t => { p with type := t }),
    ("text", fun p s => (flag s).map fun (b, r) => ({ p with text := b }, r))]

/-- A component as far as it has been read. -/
structure ComponentDraft where
  /-- The name. -/
  name : Bytes := []
  /-- The route. -/
  route : Bytes := []
  /-- The parameters. -/
  params : Slots Param := {}

/-- The component that has been read. -/
def ComponentDraft.component (d : ComponentDraft) : Component := ⟨d.name, d.route, d.params.items⟩

/-- The members of a component. -/
def componentFields : Fields ComponentDraft :=
  [("name", textField fun c t => { c with name := t }),
    ("route", textField fun c t => { c with route := t }),
    ("params", recordsField paramFields { name := [], type := [] } (·.params)
      fun c l => { c with params := l })]

/-- The members of a source. -/
def sourceFields : Fields ModuleSource :=
  [("name", textField fun x t => { x with name := t }),
    ("code", textField fun x t => { x with code := t })]

/-- A module as far as it has been read. -/
structure Draft where
  /-- What of it is no list of records. -/
  module : Module := zero
  /-- The generated files. -/
  sources : Slots ModuleSource := {}
  /-- The components. -/
  components : Slots ComponentDraft := {}

/-- The module that has been read. -/
def Draft.result (d : Draft) : Module :=
  { d.module with
    sources := d.sources.items, components := d.components.items.map ComponentDraft.component }

/-- A text member of a module. -/
def moduleText (set : Module → Bytes → Module) : Draft → Parser Draft :=
  textField fun d t => { d with module := set d.module t }

/-- The members of a module. A list of imports that is nil leaves the imports alone. -/
def moduleFields : Fields Draft :=
  [("format", moduleText fun m t => { m with format := t }),
    ("path", moduleText fun m t => { m with path := t }),
    ("name", moduleText fun m t => { m with name := t }),
    ("imports", fun d s => (array? text s).map fun (l, r) =>
      ({ d with module := { d.module with imports := l.or d.module.imports } }, r)),
    ("export_data", moduleText fun m t => { m with exportData := t }),
    ("sources", recordsField sourceFields ⟨[], []⟩ (·.sources) fun d l => { d with sources := l }),
    ("components", recordsField componentFields {} (·.components)
      fun d l => { d with components := l })]

/-- Why a file is no module. -/
inductive DecodeError where
  /-- The bytes are no record of a module. -/
  | malformed
  /-- The module has another layout. -/
  | badFormat (format : Bytes)
  /-- The module does not say where it lives. -/
  | noPath
  deriving DecidableEq, Repr

/-- The wording of an error. -/
def DecodeError.message : DecodeError → Bytes
  | .malformed => "decoding module: malformed"
  | .badFormat f => "unsupported module format " ++ Quoted.quote f
  | .noPath => "module has no package path"

/-- **The module of a file**, whatever follows it. -/
def decode (s : Bytes) : Except DecodeError Module :=
  match record moduleFields {} {} s with
  | none => .error .malformed
  | some (d, _) =>
    let m := d.result
    if m.format ≠ currentFormat then .error (.badFormat m.format)
    else if m.path.isEmpty then .error .noPath
    else .ok m

end Module

end Stencil

import Stencil.Compile.Interrupt
import Stencil.Compile.Tools

/-!
# From generated files to a module

Generated files are read and checked by the host tools against the references of a
catalog. Files that cannot be read are not checked. A package that was checked without
errors becomes a module; the declarations of a batch become one in any case, since the
components that do make sense are wanted even if others do not.
-/

namespace Stencil

open Bytes

/-- **A generated file on its way to the host tools.** -/
structure EmitUnit where
  /-- The name of the file. -/
  name : Bytes
  /-- The text of the file. -/
  code : Bytes
  /-- The path of the unit it was generated for. -/
  path : Bytes
  /-- The role of that unit. -/
  role : Role := .component
  /-- The source map, if there is one. -/
  sourceMap : Option SourceMap := none
  /-- The component as its directives declare it. -/
  shape : Component := { name := [] }

namespace EmitUnit

/-- The file of a generated unit. -/
def ofGenerated (g : GeneratedUnit) : EmitUnit where
  name := g.fileName
  code := g.code
  path := g.unit.path
  role := g.unit.role
  sourceMap := some g.sourceMap
  shape := g.shape

/-- What ties the file to its unit. -/
def generatedFile (u : EmitUnit) : GeneratedFile where
  name := u.name
  source := u.path
  role := u.role
  injected := SourceUnit.injectedLines u.role
  lines := u.sourceMap

/-- The file as a source of a module. -/
def source (u : EmitUnit) : ModuleSource := ⟨u.name, u.code⟩

end EmitUnit

namespace Emit

/-- The package path used when none is given. -/
def defaultPackagePath : Bytes := "templc.local/app"

/-- **What became of generated files.** -/
structure Emitted where
  /-- How many files could be read. -/
  filesRead : Nat
  /-- The checked package, if it came to that. -/
  package : Option HostPackage
  /-- The module, if there is one. -/
  reference : Option Reference
  /-- What is wrong. -/
  diagnostics : List Diagnostic

/-- The route that files declare for the component of a name; of several, the last. -/
def routeOf (units : List EmitUnit) (name : Bytes) : Bytes :=
  ((units.reverse.find? fun u => u.shape.name = name && !u.shape.route.isEmpty).map
    fun u => u.shape.route).getD []

/-- **The file of a module**, or why there is none. -/
def serialize (units : List EmitUnit) (link : Bool) : Option HostPackage → Except Bytes Bytes
  | none => .error "nothing to serialize"
  | some p =>
    p.exportData.map fun data =>
      let components := if link then p.localComponents else p.components
      Module.encode
        { format := Module.currentFormat
          path := p.path
          name := p.name
          imports := some p.imports
          exportData := data
          sources := units.map EmitUnit.source
          components := components.map fun (c : Component) =>
            { c with route := routeOf units c.name } }

/-- The module of checked files as later compilations see it. Declarations that cannot be
written down do not count as a failure. -/
def reference (units : List EmitUnit) (link : Bool) (package : Option HostPackage) :
    Except Failure (Option Reference) :=
  match serialize units link package with
  | .error e =>
    if link then .ok none
    else .error (.wrapInternal "ERR_EXPORT_FAILED" "serializing module" (.plain e))
  | .ok data =>
    match Reference.ofBytes data with
    | .error e =>
      .error (.wrapInternal "ERR_EXPORT_FAILED" "reading back serialized module"
        (.plain e.message))
    | .ok r => .ok (some r)

/-- What is wrong with the grammar of files: how many have no errors, and the errors. -/
def readAll (tools : HostTools) (units : List EmitUnit) : Nat × List Diagnostic :=
  let files := units.map EmitUnit.generatedFile
  let errors := units.map fun (u : EmitUnit) => tools.grammarErrors u.name u.code
  (errors.countP List.isEmpty,
    errors.flatMap fun es => (HostError.grammarList es).diagnostics files)

/-- The reports of a check as diagnostics. For declarations, those that leave the package
its meaning are dropped. -/
def checkDiagnostics (units : List EmitUnit) (link : Bool) (reports : List HostReport) :
    List Diagnostic :=
  let files := units.map EmitUnit.generatedFile
  Diagnostic.aboveInfo
    ((reports.filter fun r => !(link && r.soft)).foldl
      (fun ds r => HostError.append files ds (.typing r.pos r.message)) [])

/-- **Reads, checks and writes down generated files.** What is wrong with them is a
diagnostic; a failure is only a request that was cancelled or a module that could not be
written. -/
def run (tools : HostTools) (stop : Interrupts) (refs : List Reference) (path : Bytes)
    (link : Bool) (units : List EmitUnit) : Except Failure Emitted := do
  stop.check (.beforeReading link) "emit"
  let path := if path.isEmpty then defaultPackagePath else path
  let (filesRead, grammar) := readAll tools units
  if !grammar.isEmpty then
    return ⟨filesRead, none, none, Diagnostic.aboveInfo grammar⟩
  stop.check (.beforeChecking link) "emit"
  let (reports, package) := tools.check path link (units.map EmitUnit.source) refs
  let ds := checkDiagnostics units link reports
  if package.isNone || (!link && Diagnostic.hasErrors ds) then
    return ⟨filesRead, package, none, ds⟩
  let r ← reference units link package
  return ⟨filesRead, package, r, ds⟩

end Emit

end Stencil

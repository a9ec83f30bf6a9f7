import Stencil.Compile.Emit
import Stencil.Compile.Phase
import Stencil.Source.Index

/-!
# Compiling a batch

A compilation goes over its batch three times. The declaration pass reads every unit for
its shape only; the declarations together become a temporary module, in which component
tags of the batch are looked up; then every unit is read in full, and the code is compiled
against the catalog alone.

Only errors in the sources themselves stop a batch early. What comes after the
declaration pass always runs to the end, so that one round trip shows every diagnostic.
-/

namespace Stencil

open Bytes

/-- A source as a caller supplies it. -/
structure SourceFile where
  /-- The path, in any form. -/
  path : Bytes
  /-- The text. -/
  text : Bytes
  deriving DecidableEq, Repr

namespace Compile

/-- **The settings of a compilation.** -/
structure Options where
  /-- The import path of the compiled package. -/
  packagePath : Bytes := Emit.defaultPackagePath
  /-- The name of the compiled package. -/
  packageName : Bytes := defaultPackageName
  /-- The path of the root unit, empty for the first component. -/
  rootPath : Bytes := []
  /-- The route of the root unit. -/
  rootRoute : Bytes := "/"
  deriving DecidableEq, Repr

namespace Options

/-- The settings with another package; what is empty stays as it is. -/
def withPackage (o : Options) (path name : Bytes) : Options :=
  { o with
    packagePath := if path.isEmpty then o.packagePath else path
    packageName := if name.isEmpty then o.packageName else name }

/-- The settings with another root unit and, unless it is empty, another route. -/
def withRoot (o : Options) (path route : Bytes) : Options :=
  { o with rootPath := path, rootRoute := if route.isEmpty then o.rootRoute else route }

end Options

/-! ## Preparing -/

/-- Units with one more: a unit of the same path gives its place to the new one. -/
def addUnit (units : List SourceUnit) (u : SourceUnit) : List SourceUnit :=
  if units.any fun v => v.path = u.path then
    units.map fun v => if v.path = u.path then u else v
  else units ++ [u]

/-- The units of files, in order of the first file of each path, and a warning for every
file that replaces an earlier one. -/
def collect : List SourceUnit → List SourceFile → List SourceUnit × List Diagnostic
  | units, [] => (units, [])
  | units, f :: files =>
    let u := SourceUnit.ofFile f.path f.text
    let warnings := if units.any fun v => v.path = u.path then
      [Finding.diagnostic u.path ⟨0, .duplicateUnit u.path⟩] else []
    let (all, more) := collect (addUnit units u) files
    (all, warnings ++ more)

/-- An error for every component whose type an earlier one already has; `seen` has the
types of the components before, with their paths. -/
def typeCollisions : List (Bytes × Bytes) → List SourceUnit → List Diagnostic
  | _, [] => []
  | seen, u :: units =>
    if u.isComponent then
      let type := Naming.typeName u.path
      match seen.find? fun e => e.1 = type with
      | some (_, first) =>
        Finding.diagnostic u.path ⟨0, .typeCollision first u.path type⟩ :: typeCollisions seen units
      | none => typeCollisions ((type, u.path) :: seen) units
    else typeCollisions seen units

/-- **The units of files** with the root marked, and what is wrong with the batch as
such. -/
def prepare (files : List SourceFile) (o : Options) : List SourceUnit × List Diagnostic :=
  let (units, warnings) := collect [] files
  (SourceUnit.markRoot units o.rootPath, warnings ++ typeCollisions [] units)

/-! ## The passes -/

/-- The work that reading units in a mode is. -/
def passName : Mode → Bytes
  | .declaration => "declare"
  | .full => "resolve"

/-- The code of a component in a batch. -/
def generate (units : List SourceUnit) (mode : Mode) (resolver : Resolver) (o : Options)
    (u : SourceUnit) : GeneratedUnit :=
  Generate.unit u (u.input o.rootRoute) mode ⟨units⟩ resolver o.packageName

/-- **The code of every component of a batch**, in order, unless the request is
cancelled. -/
def pass (stop : Interrupts) (units : List SourceUnit) (mode : Mode) (resolver : Resolver)
    (o : Options) : Except Failure (List GeneratedUnit) := do
  stop.check (.beforePass mode) (passName mode)
  let components := units.filter SourceUnit.isComponent
  (List.range components.length).forM fun i => stop.check (.beforeUnit mode i) (passName mode)
  return components.map (generate units mode resolver o)

/-- What is wrong with generated units. -/
def diagnosticsOf (gs : List GeneratedUnit) : List Diagnostic :=
  gs.flatMap GeneratedUnit.diagnostics

/-- The declarations of a batch. -/
def declare (stop : Interrupts) (units : List SourceUnit) (o : Options) :
    Except Failure (List GeneratedUnit) :=
  pass stop units .declaration (fun _ _ => none) o

/-- The temporary module of declarations, if there is one. -/
def link (tools : HostTools) (stop : Interrupts) (refs : List Reference)
    (declared : List GeneratedUnit) (o : Options) : Except Failure Emit.Emitted :=
  Emit.run tools stop refs o.packagePath true (declared.map EmitUnit.ofGenerated)

/-- The shapes of the components of references and, under the empty path, of the
temporary module. -/
def shapesOf (refs : List Reference) (temp : Option Reference) : Shapes :=
  let known := refs.foldl (fun (s : Shapes) (r : Reference) => s.add r.path r.components) .empty
  match temp with
  | some t => known.add [] t.components
  | none => known

/-- The full code of a batch. -/
def resolve (stop : Interrupts) (units : List SourceUnit) (refs : List Reference)
    (temp : Option Reference) (o : Options) : Except Failure (List GeneratedUnit) :=
  pass stop units .full (shapesOf refs temp).component? o

/-- The module of the full code, if there is one. -/
def emit (tools : HostTools) (stop : Interrupts) (refs : List Reference)
    (resolved : List GeneratedUnit) (o : Options) : Except Failure Emit.Emitted :=
  Emit.run tools stop refs o.packagePath false (resolved.map EmitUnit.ofGenerated)

/-! ## Compilations -/

/-- **The answer to a request**: a module exactly if no diagnostic is an error. -/
structure Result where
  /-- The file of the module. -/
  module : Option Bytes
  /-- What is wrong. -/
  diagnostics : List Diagnostic
  deriving DecidableEq, Repr

/-- Whether there is no module. -/
def Result.failed (r : Result) : Bool := r.module.isNone

/-- The size of the module, zero without one. -/
def Result.size (r : Result) : Nat := (r.module.getD []).length

/-- **What an observer of a compilation is told.** -/
inductive Event where
  /-- A phase starts. -/
  | phase (p : Phase)
  /-- The declarations of so many units have so many errors, and nothing is compiled. -/
  | declarationsFailed (units errors : Nat)
  /-- There is no temporary module. -/
  | noTemporaryModule
  /-- So many units were compiled, with this result. -/
  | completed (units : Nat) (result : Result)

/-- A compilation: its events in order, and its answer. -/
structure Run where
  /-- What observers were told. -/
  events : List Event
  /-- The answer. -/
  outcome : Except Failure Result

/-- The phases of a compilation. -/
def Run.phases (r : Run) : List Phase :=
  r.events.filterMap fun
    | .phase p => some p
    | _ => none

/-- The compilation after earlier events. -/
def Run.begin (events : List Event) (r : Run) : Run := { r with events := events ++ r.events }

/-- A compilation that ends with a failure. -/
def Run.failing (e : Failure) : Run := ⟨[], .error e⟩

/-- A compilation that stops early with diagnostics, which say why. -/
def Run.stopping (events : List Event) (ds : List Diagnostic) : Run :=
  ⟨events ++ [.phase .done], .ok ⟨none, ds⟩⟩

/-- The end of a compilation: the diagnostics of all its parts, and the module if none of
them is an error. -/
def finish (units : Nat) (groups : List (List Diagnostic)) (reference : Option Reference) : Run :=
  let ds := Diagnostic.merge groups
  if Diagnostic.hasErrors ds then
    let result : Result := ⟨none, ds⟩
    ⟨[.phase .done, .completed units result], .ok result⟩
  else
    match reference with
    | none =>
      .failing (.make .internal "ERR_EXPORT_FAILED"
        "compilation succeeded without producing a module")
    | some r =>
      let result : Result := ⟨some r.raw, ds⟩
      ⟨[.phase .done, .completed units result], .ok result⟩

/-- The part of a compilation that needs the catalog. -/
def build (tools : HostTools) (stop : Interrupts) (refs : List Reference)
    (units : List SourceUnit) (declared : List GeneratedUnit) (prepared : List Diagnostic)
    (o : Options) : Run :=
  Run.begin [.phase .linking] <|
    match link tools stop refs declared o with
    | .error e => .failing e
    | .ok linked =>
      let missing := if linked.reference.isNone then [Event.noTemporaryModule] else []
      Run.begin (missing ++ [.phase .resolving]) <|
        match resolve stop units refs linked.reference o with
        | .error e => .failing e
        | .ok resolved =>
          Run.begin [.phase .emitting] <|
            match emit tools stop refs resolved o with
            | .error e => .failing e
            | .ok emitted =>
              finish units.length
                [prepared, diagnosticsOf declared, linked.diagnostics, diagnosticsOf resolved,
                  emitted.diagnostics] emitted.reference

/-- **Compiles files** against the references of a catalog. -/
def run (tools : HostTools) (stop : Interrupts) (refs : List Reference)
    (files : List SourceFile) (o : Options) : Run :=
  let (units, prepared) := prepare files o
  Run.begin [.phase .declaring] <|
    if !units.any SourceUnit.isComponent then
      .stopping [] (Diagnostic.merge [prepared, [Finding.diagnostic [] ⟨0, .emptyBatch⟩]])
    else
      match declare stop units o with
      | .error e => .failing e
      | .ok declared =>
        let ds := diagnosticsOf declared
        if Diagnostic.hasErrors prepared || Diagnostic.hasErrors ds then
          .stopping [.declarationsFailed units.length (Diagnostic.count ds .error)]
            (Diagnostic.merge [prepared, ds])
        else build tools stop refs units declared prepared o

/-- A compilation that may lack a catalog. -/
def runWith (tools : HostTools) (stop : Interrupts) (refs : Option (List Reference))
    (files : List SourceFile) (o : Options) : Run :=
  match refs with
  | some refs => run tools stop refs files o
  | none =>
    .failing (.make .validation "ERR_INVALID_REQUEST" "compile needs a reference catalog")

end Compile

end Stencil

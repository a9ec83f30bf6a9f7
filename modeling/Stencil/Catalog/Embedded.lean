import Stencil.Catalog
import Stencil.Catalog.Library
import Stencil.Host.Tools
import Stencil.Text.Path

/-!
# Modules of the bundled library

The bundled packages lie in a small tree of folders, one folder for each, and a module name
is a path in that tree behind a fixed first part. So a name can spell the same folder in
several ways, and a folder without sources is a module without declarations.
-/

namespace Stencil.Embedded

open Bytes Host

/-- What the names of bundled modules start with. -/
def namePrefix : Bytes := "templc/"

/-- The folder of a bundled package. -/
def folder (path : Bytes) : Bytes := Path.joinTwo "lib" (trimPrefix path namePrefix)

/-- The names of the bundled modules, sorted. -/
def modules : List Bytes := Bytes.sort (Library.packages.map Prod.fst)

/-- The files in the folder a name spells, with the names they have in that module; none
if there is no such folder. -/
def files? (name : Bytes) : Option (List (Bytes × Bytes)) :=
  match dropPrefix? namePrefix name with
  | none => none
  | some rest =>
    let dir := Path.joinTwo "lib" rest
    if dir = "." || dir = "lib" then some []
    else
      match Library.packages.find? fun (p : Bytes × Bytes × Bytes) => folder p.1 = dir with
      | some (_, file, text) => some [(name ++ "/" ++ Path.base file, text)]
      | none => none

/-- The paths a file imports. -/
def importsOf (f : File) : List Bytes :=
  f.decls.flatMap fun d =>
    match d with
    | .group specs => specs.filterMap fun s =>
        match s with
        | .importing _ _ path => Quoted.unquote? path
        | _ => none
    | _ => []

/-- The archive of a bundled module, with at most `n` modules that need one another. -/
def archive? : Nat → Bytes → Option Archive
  | 0, _ => none
  | n + 1, name =>
    (files? name).map fun files =>
      let imports := files.flatMap fun (f, t) => importsOf (Grammar.parseFile f t).1
      let needed := imports.filterMap (archive? n)
      needed.foldl Archive.merge [] ++ [⟨name, files⟩]

/-- A package with all it needs as a module. -/
def moduleOf (name : Bytes) (archive : Archive) : Module :=
  let known := archive.packages
  let package := ((known.find? fun p => p.path = name).getD default)
  let table : TypeTable := known.flatMap Package.types ++ TypeTable.predeclared
  { format := Module.currentFormat
    path := name
    name := package.name
    imports := some (Bytes.sort package.imports)
    exportData := archive.encode
    sources := []
    components := package.components table runtimePath false }

/-- **The bundled module of a name**, or why there is none. -/
def fetch (name : Bytes) : Except Bytes Module :=
  match archive? (Library.packages.length + 1) name with
  | none => .error ("module " ++ name ++ " is not bundled")
  | some a => .ok (moduleOf name a)

/-- Fetches bundled modules. -/
def fetcher : Catalog.Fetcher := fun name =>
  match fetch name with
  | .ok m => .ok m.encode
  | .error e => .error (.plain e)

/-- The exported names of a bundled module. -/
def exportedNames (m : Module) : List Bytes :=
  match Archive.decode m.exportData with
  | none => []
  | some a => ((a.packages.find? fun p => p.path = m.path).map Package.exportedNames).getD []

end Stencil.Embedded

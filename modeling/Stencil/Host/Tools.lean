import Stencil.Compile.Tools
import Stencil.Generated.Code
import Stencil.Host.Archive
import Stencil.Host.Checker
import Stencil.Host.Exports
import Stencil.Host.Grammar

/-!
# The host tools

Files are read by `Stencil.Host.Grammar` and checked by `Stencil.Host.Checker`. What the
importers of a package have to know is an archive of sources: an import checks the
archived packages again, without the bodies of their functions.
-/

namespace Stencil.Host

open Bytes

/-- A bound on the steps that checking texts takes. -/
def stepBound (texts : List Bytes) : Nat :=
  4 * (texts.map List.length).foldr (· + ·) 0 + 1000

/-- What importers of packages that are known see. -/
def importerOf (known : List Package) : Importer := fun path =>
  match known.find? fun p => p.path = path with
  | some p => .ok (p, known)
  | none => .error (path ++ " is not in the reference catalog")

/-- The packages of an archive, each checked against those before it. -/
def Archive.packages (a : Archive) : List Package :=
  a.foldl (fun known (p : Archived) =>
    let files := p.files.map fun (n, t) => (Grammar.parseFile n t).1
    let steps := stepBound (p.files.map Prod.snd)
    let checked := Host.check (importerOf known) p.path true steps files
    known ++ [checked.package.visible]) []

/-- The archives of references as one, with the files of a reference's own package taken
from that reference. -/
def archiveOfReferences (refs : List Reference) : Archive :=
  let archive (r : Reference) : Archive := (Archive.decode r.module.exportData).getD []
  let all := refs.foldl (fun a r => Archive.merge a (archive r)) []
  all.map fun p =>
    match Reference.find? refs p.path with
    | some r => ((archive r).find? fun q => q.path = p.path).getD p
    | none => p

/-- What importing from references means. -/
def importerOfReferences (refs : List Reference) : Importer :=
  let known := (archiveOfReferences refs).packages
  fun path =>
    match Reference.find? refs path with
    | none => .error (path ++ " is not in the reference catalog")
    | some r =>
      let archive := (Archive.decode r.module.exportData).getD []
      let needed := known.filter fun p => archive.any fun q => q.path = p.path
      match needed.find? fun p => p.path = path with
      | some p => .ok (p, needed)
      | none => .error ("reading export data for " ++ path ++ ": malformed export data")

/-- The archive of a package: those of its imports, and its own files at the end. -/
def archiveOf (refs : List Reference) (path : Bytes) (imports : List Bytes)
    (files : List (Bytes × Bytes)) : Archive :=
  let needed := imports.filterMap fun i =>
    (Reference.find? refs i).bind fun r => Archive.decode r.module.exportData
  (needed.foldl Archive.merge []).filter (fun p => p.path ≠ path) ++ [⟨path, files⟩]

/-- A checked package with its components and its archive. -/
def hostPackage (refs : List Reference) (files : List ModuleSource) (c : Checked) : HostPackage :=
  let p := c.package
  let table : TypeTable := p.types ++ (c.imported.flatMap Package.types) ++ TypeTable.predeclared
  let sources := files.map fun f => (f.name, f.code)
  { path := p.path
    name := p.name
    imports := Bytes.sort p.imports
    components := p.components table runtimePath false
    localComponents := p.components table runtimePath true
    exportData := .ok (archiveOf refs p.path p.imports sources).encode }

/-- **The host tools.** -/
def tools : HostTools where
  grammarErrors name text :=
    (Grammar.parseFile name text).2.map fun (site, msg) => (⟨site.file, site.line⟩, msg)
  check path skipBodies files refs :=
    let trees := files.map fun f => (Grammar.parseFile f.name f.code).1
    let c := Host.check (importerOfReferences refs) path skipBodies
      (stepBound (files.map ModuleSource.code)) trees
    let shown (l : Loc) : Site := LineMark.locate (Check.marksOf trees l.file) l.file l.pos
    (c.problems.map fun p => ⟨⟨(shown p.loc).file, (shown p.loc).line⟩, p.msg, p.soft⟩,
      some (hostPackage refs files c))

end Stencil.Host

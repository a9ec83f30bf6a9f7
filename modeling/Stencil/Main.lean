import Stencil.Catalog.Embedded
import Stencil.Cli.Access
import Stencil.Host.Tools

/-!
# The program

What a command line does is said by `Stencil.Cli.run`. Here its files and variables are read,
and what it prints and writes is printed and written.
-/

namespace Stencil.Main

open Bytes Cli

/-- A text as the system takes it. -/
def native (s : Bytes) : String := Bytes.toStringLossy s

/-- Bytes as the system takes them. -/
def packed (s : Bytes) : ByteArray := ⟨s.toArray⟩

/-- The text of a file. -/
def readBytes (path : Bytes) : IO Bytes := do
  return (← IO.FS.readBinFile (native path)).toList

/-- The files with what is at a path; a directory with all that is below it, if so wanted. -/
partial def load (below : Bool) (f : Files) (path : Bytes) : IO Files := do
  try
    let real ← IO.FS.realPath (native path)
    if ← real.isDir then
      let made := (f.makeDir path).toOption.getD f
      if !below then return made
      let mut all := made
      for e in ← real.readDir do
        let name := Bytes.ofString e.fileName
        let inside := Path.joinTwo path name
        if !(Watch.isHiddenDir name && (← e.path.isDir)) then
          all ← load true all inside
      return all
    else if ← real.pathExists then
      return (f.place path (← readBytes path)).toOption.getD f
    else return f
  catch _ => return f

/-- The files with what an access looks at. -/
def loadAccess (f : Files) (a : Access) : IO Files := do
  let path := match a with
    | .tree p => p
    | .entry p => p
  if path.isEmpty then return f
  let full := if Path.isAbs path then path else f.workdir ++ [slash] ++ path
  let mut all := f
  for p in (Files.steps full).dropLast do
    all ← load false all p
  load (a matches .tree _) all (Path.clean full)

/-- The files that a command line looks at. -/
def loadFiles (accesses : List Access) : IO Files := do
  let here := Bytes.ofString (← IO.currentDir).toString
  let start : Files := { workdir := here }
  accesses.foldlM loadAccess ((start.makeDir here).toOption.getD start)

/-- The variables that a command line looks at. -/
def loadVariables : IO (List (Bytes × Bytes)) :=
  variableNames.filterMapM fun n => do
    return (← IO.getEnv (native n)).map fun v => (n, Bytes.ofString v)

/-- The world of a command line. Nobody answers on the web. -/
def worldOf (files : Files) (environment : List (Bytes × Bytes)) : World where
  files := files
  environment := environment
  tools := Host.tools
  bundled := Embedded.modules
  library := Embedded.fetcher
  web := fun u => .error (Catalog.refusal u)
  machine := ⟨"go1.21", "linux/amd64"⟩

/-- Prints what a run prints, and writes the files it writes. -/
def apply (before : Files) (o : Outcome) : IO Unit := do
  for (path, text) in before.changes o.files do
    match text with
    | none => IO.FS.createDirAll (native path)
    | some t => IO.FS.writeBinFile (native path) (packed t)
  (← IO.getStderr).write (packed o.stderr)
  (← IO.getStdout).write (packed o.stdout)
  (← IO.getStdout).flush

/-- The sources below a directory, as far as they can be read. -/
def sourcesIn (f : Files) (dir : Bytes) : List SourceFile :=
  (Watch.collectSources f dir).toOption.getD []

/-- Compiles a directory whenever its sources have changed. -/
partial def watch (accesses : List Access) (environment : List (Bytes × Bytes)) (s : Setup)
    (dir out : Bytes) (wait : Int) (known : List SourceFile) : IO UInt32 := do
  IO.sleep (max 50 (wait / 1000000).toNat).toUInt32
  let files ← loadFiles accesses
  let changed := changedPaths known (sourcesIn files dir)
  if changed.isEmpty then watch accesses environment s dir out wait known
  else
    let o := onChange (worldOf files environment) s dir out changed
    apply files o
    match o.next with
    | .done => return o.exit.toUInt32
    | _ => watch accesses environment s dir out wait (sourcesIn files dir)

end Stencil.Main

/-- Runs a command line. -/
def main (args : List String) : IO UInt32 := do
  let words := args.map Stencil.Bytes.ofString
  let environment ← Stencil.Main.loadVariables
  let named := ((environment.find? fun v => v.1 = Stencil.Cli.configVariable).map Prod.snd).getD []
  let accesses := Stencil.Cli.accesses named words
  let files ← Stencil.Main.loadFiles accesses
  let o := Stencil.Cli.run (Stencil.Main.worldOf files environment) words
  Stencil.Main.apply files o
  match o.next with
  | .done => return o.exit.toUInt32
  | .watching s dir out wait =>
    Stencil.Main.watch accesses environment s dir out wait (Stencil.Main.sourcesIn files dir)
  | .serving _ =>
    IO.eprintln "Error: this build cannot listen for requests"
    return 1

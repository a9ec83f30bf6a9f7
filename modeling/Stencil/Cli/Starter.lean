import Stencil.Config.Show
import Stencil.Files

/-!
# The starter project

A new project is a configuration file with what is so anyway, and a directory with two
components and the imports they share. What is there already is kept, unless it is to be
overwritten.
-/

namespace Stencil.Cli

open Bytes

namespace Starter

/-- The configuration file. -/
def configName : Bytes := ".templc.yml"

/-- The text of the configuration file. -/
def configText : Bytes := Yaml.write 4 Config.defaults.toSetting

/-- The directory of the components. -/
def componentsName : Bytes := "components"

/-- Lines, each with its end. -/
def ofLines (ls : List String) : Bytes := ls.flatMap fun l => Bytes.ofString l ++ [newline]

/-- The components, by name. -/
def components : List (Bytes × Bytes) :=
  [("_Imports.tmpl", ofLines ["@import \"templc/ui\""]),
    ("Page.tmpl", ofLines ["@page \"/\"", "<main>", "<Greeting Name=\"world\" />",
      "<ui.Badge Label=\"new\" Count=\"1\" />", "</main>"]),
    ("Greeting.tmpl", ofLines ["@param Name string", "<h1>Hello @Name</h1>"])]

/-- Writes a file of the project. -/
def writeFile (force : Bool) (f : Files) (path text : Bytes) : Except Bytes Files :=
  if !force && (f.find path).isOk then .error (path ++ " already exists (use --force to overwrite)")
  else f.write path text

/-- Writes files of the project, one after the other. What was written before one that cannot
be written stays. -/
def writeFiles (force : Bool) : Files → List (Bytes × Bytes) → Files × Option Bytes
  | f, [] => (f, none)
  | f, (path, text) :: more =>
    match writeFile force f path text with
    | .error e => (f, some e)
    | .ok f => writeFiles force f more

/-- **Makes a project in a directory.** The result has the files after it, and what went wrong
if something did. -/
def create (force : Bool) (f : Files) (dir : Bytes) : Files × Option Bytes :=
  let inside := Path.joinTwo dir componentsName
  match f.makeDir inside with
  | .error e => (f, some ("creating " ++ inside ++ ": " ++ e))
  | .ok f =>
    writeFiles force f ((Path.joinTwo dir configName, configText)
      :: components.map fun (n, t) => (Path.joinTwo inside n, t))

end Starter

end Stencil.Cli

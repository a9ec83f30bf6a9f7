import Stencil.Catalog.Http
import Stencil.Cli.Command
import Stencil.Compile.Tools
import Stencil.Config
import Stencil.Files
import Stencil.Text.Dotenv
import Stencil.Text.Json.Flaw
import Stencil.Text.Toml.Resolve
import Stencil.Text.Yaml
import Stencil.Version

/-!
# What a command line runs in

A run depends on the files and the variables that are there, on what bundled modules there
are, on who answers on the web, and on what is known about the build. All of it is a
`World`, so that a run is a function.

Settings come from a configuration file too. It is named by a flag or by a variable; if
neither names one, the working directory is searched for one of a few names. A file that
cannot be read or understood counts as none.
-/

namespace Stencil.Cli

open Bytes

/-- **What a command line runs in.** -/
structure World where
  /-- The files. -/
  files : Files
  /-- The variables of the environment. -/
  environment : List (Bytes × Bytes) := []
  /-- The host tools. -/
  tools : HostTools
  /-- The names of the bundled modules. -/
  bundled : List Bytes
  /-- What fetches bundled modules. -/
  library : Catalog.Fetcher
  /-- Who answers on the web. -/
  web : Catalog.Web
  /-- What the build knows about itself. -/
  build : BuildInfo := .dev
  /-- What the build runs on. -/
  machine : Machine

/-- The value of a variable, empty if it is not set. -/
def World.valueOf (w : World) (name : Bytes) : Bytes :=
  ((w.environment.find? fun e => e.1 = name).map Prod.snd).getD []

/-! ## Configuration files -/

/-- **A configuration file**: its name, and what it says or why it says nothing. -/
structure ConfigFile where
  /-- The name. -/
  name : Bytes
  /-- What it says. -/
  settings : Except Bytes Setting

namespace ConfigFile

/-- The kinds of configuration files that have a name, by their extensions. -/
def extensions : List Bytes :=
  ["json", "toml", "yaml", "yml", "properties", "props", "prop", "hcl", "tfvars", "dotenv", "env",
    "ini"]

/-- What the text of a file says, given the kind of the file. -/
def parse (kind text : Bytes) : Except Bytes Setting :=
  let wrong (cause : Bytes) : Except Bytes Setting := .error ("While parsing config: " ++ cause)
  if kind = "yaml" || kind = "yml" then
    match Yaml.readSettings text with
    | .ok s => .ok s
    | .error e => wrong e.render
  else if kind = "json" then
    match Json.read? text with
    | some (.obj ms) => .ok (Setting.ofJson (.obj ms)).lowerNames
    | some .null => .ok (.map [])
    | some v =>
      wrong ("json: cannot unmarshal " ++ v.kind
        ++ " into Go value of type map[string]interface \x7b\x7d")
    | none => wrong ((Json.flaw? text).getD "unexpected end of JSON input")
  else if kind = "toml" then
    match Toml.readSettings text with
    | .ok s => .ok s
    | .error e => wrong e
  else if kind = "dotenv" || kind = "env" then
    match Dotenv.readSettings text with
    | .ok s => .ok s
    | .error e => wrong e
  else wrong "decoder not found for this format"

/-- The configuration file at a path, given its kind. -/
def readAs (f : Files) (kind path : Bytes) : ConfigFile where
  name := path
  settings :=
    match f.read path with
    | .error e => .error e
    | .ok text => parse kind text

/-- The configuration file at a path; the extension says of what kind it is. -/
def read (f : Files) (path : Bytes) : ConfigFile :=
  let kind := (Path.ext path).drop 1
  if extensions.contains kind then readAs f kind path
  else ⟨path, .error ("Unsupported Config Type " ++ Quoted.quote kind)⟩

/-- The name that is searched for, without extension. -/
def baseName : Bytes := ".templc"

/-- The names that are searched for, in order. -/
def searched : List Bytes := baseName :: extensions.map fun e => baseName ++ "." ++ e

/-- The configuration file of a working directory, if there is one. Whatever its name, it is
a YAML document. -/
def search (f : Files) : Option ConfigFile :=
  (searched.find? fun n =>
    match f.find n with
    | .ok (.file _ _) => true
    | _ => false).map fun n => readAs f "yaml" (Path.joinTwo f.workdir n)

end ConfigFile

/-- The variable that names the configuration file. -/
def configVariable : Bytes := "TEMPLC_CONFIG_FILE"

/-- **The configuration file of a command line.** -/
def World.configFile (w : World) (words : Words) : Option ConfigFile :=
  let named := words.text "config" []
  let inherited := w.valueOf configVariable
  if !named.isEmpty then some (.read w.files named)
  else if !inherited.isEmpty then some (.read w.files inherited)
  else ConfigFile.search w.files

/-! ## Settings -/

/-- The flags that are settings, with the names of these. -/
def settingFlags : List (Bytes × Bytes) :=
  [("log-level", "log.level"), ("catalog-url", "catalog.url"), ("jobs", "compile.jobs"),
    ("host", "server.host"), ("port", "server.port")]

/-- The value of a flag as a setting. -/
def FlagValue.toSetting : FlagValue → Setting
  | .text s => .text s
  | .number n => .int n
  | .switch b => .bool b
  | .duration d => .int d

/-- **The configuration of a command line.** Who names an address of modules wants modules
from the web. -/
def World.config (w : World) (words : Words) : Except Failure Config :=
  let file := w.configFile words
  let overrides : Setting :=
    if (words.value? "catalog-url").isSome then
      .map [("catalog", .map [("source", .text Config.webSource)])]
    else .map []
  Config.load
    { overrides := overrides
      flags := settingFlags.filterMap fun (flag, name) =>
        (words.value? flag).map fun v => (name, v.toSetting)
      variablePrefix := "TEMPLC"
      environment := w.environment
      file := ((file.bind fun f => f.settings.toOption).getD (.map [])) }
    ((file.map ConfigFile.name).getD [])

end Stencil.Cli

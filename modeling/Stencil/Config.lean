import Stencil.Catalog
import Stencil.Compile.Batch
import Stencil.Config.Sources
import Stencil.Http.Url
import Stencil.Text.Duration

/-!
# The configuration

A configuration says where reference modules come from, how batches are compiled, how the
server runs, and what is logged. It is made from settings: what they leave open has a
default, and what they say must make sense.
-/

namespace Stencil

open Bytes

/-- Where reference modules come from. -/
structure CatalogConfig where
  /-- The kind of source. -/
  source : Bytes := []
  /-- The address of a source on the web. -/
  url : Bytes := []
  /-- The modules to start with. -/
  roots : List Bytes := []
  /-- How long fetching may take, in nanoseconds. -/
  timeout : Int := 0
  deriving DecidableEq, Repr

/-- How batches are compiled. -/
structure CompileConfig where
  /-- The import path of the package. -/
  packagePath : Bytes := []
  /-- The name of the package. -/
  packageName : Bytes := []
  /-- The path of the root unit. -/
  rootPath : Bytes := []
  /-- The route of the root unit. -/
  rootRoute : Bytes := []
  /-- How many units are read at once, zero for as many as possible. -/
  jobs : Int := 0
  deriving DecidableEq, Repr

/-- How the server runs. -/
structure ServerConfig where
  /-- The host it listens on. -/
  host : Bytes := []
  /-- The port it listens on. -/
  port : Int := 0
  /-- How many compilations a client may ask for in a minute, zero for any number. -/
  rateLimit : Int := 0
  /-- How many compilations a client may ask for at once. -/
  burst : Int := 0
  /-- How many megabytes of results are kept. -/
  cacheMegabytes : Int := 0
  deriving DecidableEq, Repr

/-- What is logged. -/
structure LogConfig where
  /-- The name of the level. -/
  level : Bytes := []
  /-- The name of the format. -/
  format : Bytes := []
  deriving DecidableEq, Repr

/-- **A configuration.** -/
structure Config where
  /-- Where reference modules come from. -/
  catalog : CatalogConfig := {}
  /-- How batches are compiled. -/
  compile : CompileConfig := {}
  /-- How the server runs. -/
  server : ServerConfig := {}
  /-- What is logged. -/
  log : LogConfig := {}
  deriving DecidableEq, Repr

namespace Config

/-- Modules come with the program. -/
def embeddedSource : Bytes := "embedded"

/-- Modules come from the web. -/
def webSource : Bytes := "http"

/-- **The configuration when nothing is set.** -/
def defaults : Config where
  catalog :=
    { source := embeddedSource, roots := Catalog.defaultRoots, timeout := 30000000000 }
  compile :=
    { packagePath := Emit.defaultPackagePath, packageName := defaultPackageName, rootRoute := "/" }
  server := { host := "localhost", port := 7331, cacheMegabytes := 32 }
  log := { level := "info", format := "text" }

/-! ## From settings -/

/-- A duration, which may be written as a text. -/
def duration? : Setting → Option Int
  | .text s => Duration.parse? s
  | v => v.asInt? 0

/-- The part of the settings under a name; nothing counts as a map without members. -/
def section? (settings : Setting) (name : Bytes) : Option Setting :=
  match settings.member? name with
  | none => some (.map [])
  | some .null => some (.map [])
  | some (.map ms) => some (.map ms)
  | some _ => none

/-- A text of a section. -/
def text? (s : Setting) (name : Bytes) : Option Bytes :=
  ((s.member? name).getD .null).asText? []

/-- An integer of a section. -/
def int? (s : Setting) (name : Bytes) : Option Int := ((s.member? name).getD .null).asInt? 0

/-- The configuration that settings say, as far as they can be understood. -/
def ofSettings? (settings : Setting) : Option Config := do
  let catalog ← section? settings "catalog"
  let compile ← section? settings "compile"
  let server ← section? settings "server"
  let log ← section? settings "log"
  return {
    catalog := {
      source := ← text? catalog "source"
      url := ← text? catalog "url"
      roots := ← ((catalog.member? "roots").getD .null).asTexts? []
      timeout := ← duration? ((catalog.member? "timeout").getD .null) }
    compile := {
      packagePath := ← text? compile "package_path"
      packageName := ← text? compile "package_name"
      rootPath := ← text? compile "root_path"
      rootRoute := ← text? compile "root_route"
      jobs := ← int? compile "jobs" }
    server := {
      host := ← text? server "host"
      port := ← int? server "port"
      rateLimit := ← int? server "rate_limit"
      burst := ← int? server "burst"
      cacheMegabytes := ← int? server "cache_mb" }
    log := {
      level := ← text? log "level"
      format := ← text? log "format" } }

/-- What cannot be understood of a text setting. -/
def textErrors (name : Bytes) (v : Setting) : List Bytes :=
  if (v.asText? []).isSome then [] else [v.mismatch name "string"]

/-- What cannot be understood of an integer setting. -/
def intErrors (name type : Bytes) (v : Setting) : List Bytes :=
  if (v.asInt? 0).isSome then []
  else
    match v with
    | .text s => ["cannot parse '" ++ name ++ "' as int: " ++ Setting.integerComplaint s]
    | v => [v.mismatch name type]

/-- What cannot be understood of a duration. -/
def durationErrors (name : Bytes) (v : Setting) : List Bytes :=
  match v with
  | .text s =>
    if (Duration.parse? s).isSome then []
    else ["error decoding '" ++ name ++ "': " ++ Duration.complaint s]
  | v => intErrors name "time.Duration" v

/-- What cannot be understood of a list of texts. -/
def textsErrors (name : Bytes) (v : Setting) : List Bytes :=
  let items : List Setting := match v with
    | .list l => l
    | .text _ => []
    | v => if (v.asTexts? []).isSome then [] else [v]
  items.zipIdx.flatMap fun (v, i) => textErrors (name ++ "[" ++ Bytes.ofNat i ++ "]") v

/-- What cannot be understood of the members of a section. -/
def sectionErrors (settings : Setting) (name : Bytes)
    (fields : List (Bytes × (Bytes → Setting → List Bytes))) : List Bytes :=
  match section? settings name with
  | none =>
    let v := (settings.member? name).getD .null
    ["'" ++ name ++ "' expected a map, got '" ++ v.kindName ++ "'"]
  | some s =>
    fields.flatMap fun (field, errors) =>
      errors (name ++ "." ++ field) ((s.member? field).getD .null)

/-- **What cannot be understood of settings**, in order. -/
def errors (settings : Setting) : List Bytes :=
  let int (name : Bytes) := intErrors name "int"
  sectionErrors settings "catalog" [("source", textErrors), ("url", textErrors),
      ("roots", textsErrors), ("timeout", durationErrors)]
    ++ sectionErrors settings "compile" [("package_path", textErrors), ("package_name", textErrors),
      ("root_path", textErrors), ("root_route", textErrors), ("jobs", int)]
    ++ sectionErrors settings "server" [("host", textErrors), ("port", int), ("rate_limit", int),
      ("burst", int), ("cache_mb", int)]
    ++ sectionErrors settings "log" [("level", textErrors), ("format", textErrors)]

/-- The settings that every source is asked for, with nothing in them. Only the size of
the cache has a default here, since zero is a choice for it. -/
def knownSettings : Setting :=
  let text : Setting := .text []
  let number : Setting := .int 0
  .map [("catalog", .map [("source", text), ("url", text), ("roots", .list []),
      ("timeout", number)]),
    ("compile", .map [("package_path", text), ("package_name", text), ("root_path", text),
      ("root_route", text), ("jobs", number)]),
    ("server", .map [("host", text), ("port", number), ("rate_limit", number), ("burst", number),
      ("cache_mb", .int defaults.server.cacheMegabytes)]),
    ("log", .map [("level", text), ("format", text)])]

/-- The text, or another one if it is empty. -/
def orDefault (s other : Bytes) : Bytes := if s.isEmpty then other else s

/-- **The configuration with what it leaves open filled in.** The name of the package is
the last part of its path. -/
def complete (c : Config) : Config :=
  let d := defaults
  let path := orDefault c.compile.packagePath d.compile.packagePath
  { catalog := { c.catalog with
      source := orDefault c.catalog.source d.catalog.source
      roots := if c.catalog.roots.isEmpty then d.catalog.roots else c.catalog.roots
      timeout := if c.catalog.timeout = 0 then d.catalog.timeout else c.catalog.timeout }
    compile := { c.compile with
      packagePath := path
      packageName := orDefault c.compile.packageName (Path.base path)
      rootRoute := orDefault c.compile.rootRoute d.compile.rootRoute }
    server := { c.server with
      host := orDefault c.server.host d.server.host
      port := if c.server.port = 0 then d.server.port else c.server.port }
    log := {
      level := orDefault c.log.level d.log.level
      format := orDefault c.log.format d.log.format } }

/-! ## What makes no sense -/

/-- **What is wrong with a configuration.** -/
inductive Problem where
  /-- No such kind of source. -/
  | unknownSource (source : Bytes)
  /-- The address of a source does not say where to go. -/
  | badUrl (url : Bytes)
  /-- A module without a name. -/
  | emptyRoot
  /-- The name of the package is no name. -/
  | badPackageName (name : Bytes)
  /-- A negative number of units at once. -/
  | negativeJobs (jobs : Int)
  /-- The path of the root unit leads out of the batch. -/
  | rootTraversal (path : Bytes)
  /-- The route does not start with a slash. -/
  | badRoute (route : Bytes)
  /-- There is no such port. -/
  | badPort (port : Int)
  /-- A negative limit. -/
  | negativeLimit
  /-- No such format of logs. -/
  | unknownLogFormat (format : Bytes)
  deriving DecidableEq, Repr

namespace Problem

/-- The wording of a problem. -/
def message : Problem → Bytes
  | .unknownSource s => "catalog source " ++ Quoted.quote s ++ " is not one of embedded, http"
  | .badUrl u => "catalog url " ++ Quoted.quote u ++ " is not an absolute URL"
  | .emptyRoot => "catalog root names must not be empty"
  | .badPackageName n => "package_name " ++ Quoted.quote n ++ " is not a Go identifier"
  | .negativeJobs n => "jobs must not be negative, got " ++ Bytes.ofInt n
  | .rootTraversal p => "root_path contains traversal: " ++ p
  | .badRoute r => "root_route " ++ Quoted.quote r ++ " must start with /"
  | .badPort p => "port " ++ Bytes.ofInt p ++ " is not in valid range 0-65535"
  | .negativeLimit => "rate_limit, burst and cache_mb must not be negative"
  | .unknownLogFormat f => "log format " ++ Quoted.quote f ++ " is not one of text, json"

/-- The part of the configuration that a problem is in, empty where none is named. -/
def place : Problem → Bytes
  | .unknownSource _ | .badUrl _ | .emptyRoot => "catalog config"
  | .badPackageName _ | .negativeJobs _ | .rootTraversal _ | .badRoute _ => "compile config"
  | _ => []

/-- The failure of a problem. -/
def failure (p : Problem) : Failure :=
  let cause := Failure.badConfig p.message
  .remark "invalid configuration"
    (some (if p.place.isEmpty then cause else .remark p.place (some cause)))

end Problem

/-- Whether a text is a name: letters, digits and underscores, without a digit in front. -/
def isName (s : Bytes) : Bool :=
  match s with
  | [] => false
  | c :: r => isIdentStart c && r.all isIdentChar

/-- The first problem of where modules come from. -/
def catalogProblem? (c : CatalogConfig) : Option Problem :=
  if c.source = webSource && !((Url.parse? c.url).map Url.isAbsolute).getD false then
    some (.badUrl c.url)
  else if c.source ≠ webSource && c.source ≠ embeddedSource then some (.unknownSource c.source)
  else if c.roots.any fun r => (trim r).isEmpty then some .emptyRoot
  else none

/-- The first problem of how batches are compiled. -/
def compileProblem? (c : CompileConfig) : Option Problem :=
  if !isName c.packageName then some (.badPackageName c.packageName)
  else if c.jobs < 0 then some (.negativeJobs c.jobs)
  else if Bytes.contains c.rootPath ".." then some (.rootTraversal c.rootPath)
  else if !startsWith c.rootRoute "/" then some (.badRoute c.rootRoute)
  else none

/-- **The first problem of a configuration.** -/
def problem? (c : Config) : Option Problem :=
  (catalogProblem? c.catalog).orElse fun _ =>
    (compileProblem? c.compile).orElse fun _ =>
      if c.server.port < 0 || 65535 < c.server.port then some (.badPort c.server.port)
      else if c.server.rateLimit < 0 || c.server.burst < 0 || c.server.cacheMegabytes < 0 then
        some .negativeLimit
      else if c.log.format ≠ "text" && c.log.format ≠ "json" then
        some (.unknownLogFormat c.log.format)
      else none

/-- **The configuration of some sources.** The file is named when the settings cannot be
understood. -/
def load (s : Sources) (file : Bytes) : Except Failure Config :=
  let settings := { s with defaults := knownSettings }.settings
  match ofSettings? settings with
  | none =>
    let cause := "decoding failed due to the following error(s):\n\n"
      ++ join [newline] (errors settings)
    .error ((Failure.wrap .config "ERR_CONFIG_INVALID" "failed to decode configuration"
      (.plain cause)).mapInfo fun i => { i with file := file })
  | some c =>
    let c := c.complete
    match c.problem? with
    | some p => .error p.failure
    | none => .ok c

/-- The settings of a compilation. -/
def compileOptions (c : Config) : Compile.Options :=
  (({} : Compile.Options).withPackage c.compile.packagePath c.compile.packageName).withRoot
    c.compile.rootPath c.compile.rootRoute

end Config

end Stencil

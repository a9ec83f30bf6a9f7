import Stencil.Catalog.Listing
import Stencil.Cli.Help
import Stencil.Cli.Starter
import Stencil.Cli.World
import Stencil.Server
import Stencil.Watch.Rebuild

/-!
# Running a command line

`Cli.run` says what a command line does in a world: what it prints, which files there are
afterwards, and how it ends. The words say which command is meant; then its flags are read;
then the configuration file is looked for, and only then are the arguments counted and the
command runs.

A server and a watch go on after that. For them the answer is what they start with.
-/

namespace Stencil.Cli

open Bytes

/-- What a command has printed, and the files so far. -/
structure Console where
  /-- The files. -/
  files : Files
  /-- What was printed. -/
  stdout : Bytes := []
  /-- What was printed about the run itself. -/
  stderr : Bytes := []

/-- **A command at work**: it may fail at any point, and what it did before stays. -/
abbrev Action := ExceptT Failure (StateM Console)

namespace Action

/-- Prints a text. -/
def print (s : Bytes) : Action Unit := modify fun c => { c with stdout := c.stdout ++ s }

/-- Prints a text about the run itself. -/
def note (s : Bytes) : Action Unit := modify fun c => { c with stderr := c.stderr ++ s }

/-- Fails with a text. -/
def fail (s : Bytes) : Action α := throw (.plain s)

end Action

open Stencil.Cli.Action

/-- What is said about a form that a command does not have. -/
def unsupportedFormat (name supported : Bytes) : Bytes :=
  "unsupported format: " ++ name ++ " (supported: " ++ supported ++ ")"

/-! ## Setting up -/

/-- **What every compiling command needs.** -/
structure Setup where
  /-- The configuration. -/
  config : Config
  /-- The logger. -/
  logger : Log.Logger
  /-- The catalog. -/
  catalog : Catalog

/-- The logger of a configuration. -/
def loggerOf (c : LogConfig) : Except Failure Log.Logger :=
  match Log.Level.ofName? c.level with
  | none => .error (.plain (Log.Level.unknown c.level))
  | some level => .ok { level := level, json := c.format = "json" }

/-- A time limit below this many nanoseconds is over before the first module can be asked
for. -/
def leastTimeout : Int := 100

/-- What is said when a time limit is over. -/
def timeIsOver : Bytes := "context deadline exceeded"

/-- What fetches the modules of a configuration. -/
def fetcherOf (w : World) (c : CatalogConfig) : Catalog.Fetcher :=
  let late := c.timeout < leastTimeout
  if c.source = Config.webSource then
    Catalog.webFetcher (if late then fun _ => .error timeIsOver else w.web) c.url
  else if late then fun _ => .error (.plain timeIsOver)
  else w.library

/-- A failure to open a catalog, with where to look if the network failed. -/
def withHint (w : World) (c : CatalogConfig) (e : Failure) : Failure :=
  if !e.isNetwork then e
  else if c.source = Config.webSource then
    .plain (e.text ++ "\nhint: check that " ++ c.url
      ++ " serves the catalog, or set catalog.source to " ++ Config.embeddedSource)
  else .plain (e.text ++ "\nhint: the embedded catalog has [" ++ join " " w.bundled ++ "]")

/-- Opens the catalog of a configuration. -/
def openCatalog (w : World) (c : CatalogConfig) (l : Log.Logger) : Action Catalog := do
  let made := Catalog.ofRoots (fetcherOf w c) id c.roots
  note (made.log l)
  match made.outcome with
  | .ok catalog => return catalog
  | .error e => throw (withHint w c e)

/-- **Sets up a compiling command.** -/
def setUp (w : World) (words : Words) : Action Setup := do
  let config ← ofExcept (w.config words)
  let logger ← ofExcept (loggerOf config.log)
  let catalog ← openCatalog w config.catalog logger
  return ⟨config, logger, catalog⟩

/-! ## Commands -/

/-- **The name of a file in its batch**, given the working directory: its path from there if
it is below it, and else its whole path. -/
def sourceName (workdir path : Bytes) : Bytes :=
  let path :=
    if Path.isAbs path then
      match Path.relative? workdir path with
      | some rel => if Path.isLocal rel then rel else path
      | none => path
    else path
  slash :: trimPrefix (Path.clean path) [slash]

/-- The sources that an argument names: all below a directory, or a file. -/
def sourcesOf (f : Files) (arg : Bytes) : Except Failure (List SourceFile) :=
  match f.stat arg with
  | .error e => .error (.wrapIo "ERR_FILE_NOT_FOUND" "reading sources" (.plain e))
  | .ok (.dir _ _) => Watch.collectSources f arg
  | .ok (.file _ text) => .ok [⟨sourceName f.workdir arg, text⟩]

/-- What compiling fails with after the diagnostics are printed. -/
def compileFailed : Failure := .make .build "ERR_COMPILE_FAILED" "compilation failed"

/-- The settings of a compilation, where the command line may name another root unit. -/
def optionsOf (c : Config) (words : Words) : Compile.Options :=
  let root := words.text "root" []
  let route := words.text "route" []
  if root.isEmpty && route.isEmpty then c.compileOptions else c.compileOptions.withRoot root route

/-- What a compilation did, as far as it is not a report. -/
def carryOut (b : Watch.Rebuild) : Action Compile.Report := do
  note b.log
  modify fun c => { c with files := b.files }
  ofExcept b.outcome

/-- Compiles the sources that are named. -/
def compile (w : World) (words : Words) : Action Unit := do
  let format ← ofExcept (Compile.ReportFormat.ofName (words.text "format" "text"))
  let sources ← words.args.flatMapM fun a => ofExcept (sourcesOf w.files a)
  let s ← setUp w words
  let report ← carryOut
    (Watch.buildFrom w.tools s.logger s.catalog.refs (optionsOf s.config words) w.files
      (words.text "out" []) sources)
  print (report.render format)
  if report.result.failed then throw compileFailed

/-- Lists the catalog. -/
def listCatalog (w : World) (words : Words) : Action Unit := do
  let format := words.text "format" "table"
  if format = "table" || format = "json" then
    let s ← setUp w words
    print (if format = "json" then s.catalog.toJson.pretty 0 ++ [newline] else s.catalog.listing)
  else fail (unsupportedFormat format "table, json")

/-- Shows the configuration. -/
def showConfig (w : World) (words : Words) : Action Unit := do
  let config ← ofExcept (w.config words)
  let format := words.text "format" "yaml"
  if format = "yaml" || format = "yml" then print (Yaml.write 2 config.toSetting)
  else if format = "json" then print (config.toJson.pretty 0 ++ [newline])
  else fail (unsupportedFormat format "yaml, json")

/-- Checks a configuration file, which has to make sense on its own. -/
def validateConfig (w : World) (words : Words) : Action Unit := do
  let named := words.text "file" []
  let path := if named.isEmpty then Starter.configName else named
  if (w.files.find path).isOk then
    match (ConfigFile.read w.files path).settings with
    | .error e => fail ("failed to read configuration file: " ++ e)
    | .ok settings =>
      let _ ← ofExcept (Config.load { file := settings } path)
      print (path ++ " is valid\n")
  else fail ("configuration file " ++ path ++ " does not exist")

/-- Makes a new project. -/
def starter (words : Words) : Action Unit := do
  let dir := words.args.head?.getD "."
  let (files, wrong) := Starter.create (words.isOn "force") (← get).files dir
  modify fun c => { c with files := files }
  match wrong with
  | some e => fail e
  | none =>
    print ("Created project in " ++ dir ++ "\nNext: templc compile "
      ++ Path.joinTwo dir Starter.componentsName ++ " --out app.mod\n")

/-- Shows what is known about the build. -/
def showVersion (w : World) (words : Words) : Action Unit := do
  let format := words.text "format" "text"
  if format = "json" then print ((w.build.toJson w.machine).pretty 0 ++ [newline])
  else if format = "text" then
    if words.isOn "short" then print (w.build.short ++ [newline])
    else if words.isOn "detailed" then
      print (join [newline] (w.build.detailed w.machine.facts) ++ [newline])
    else print (w.build.banner w.machine)
  else fail (unsupportedFormat format "text, json")

/-- A text between marks that need no escapes, or else between quotes. -/
def topic (s : Bytes) : Bytes :=
  let isPlain := (Utf8.runes s).all fun r =>
    r.valid && r.code ≠ grave.toNat && r.code ≠ 0xfeff && r.code ≠ 0x7f
      && (0x20 ≤ r.code || r.code = 9)
  if isPlain then [grave] ++ s ++ [grave] else Quoted.quote s

/-- Shows help about a command. -/
def showHelp (words : Words) : Action Unit :=
  match Command.find words.args with
  | .ok (c, _) => print c.helpText
  | .error _ =>
    note ("Unknown help topic [" ++ join " " (words.args.map topic) ++ "]\n"
      ++ Command.root.usageWith Command.root.flags)

/-- **What goes on after a command line.** -/
inductive Next where
  /-- Nothing. -/
  | done
  /-- A server, with the address it listens to. -/
  | serving (s : Setup)
  /-- A watch of a directory, with the file of the module and how long changes may wait. -/
  | watching (s : Setup) (dir out : Bytes) (wait : Int)

/-- Compiles a directory for the first time. -/
def startWatch (w : World) (words : Words) : Action Next := do
  let dir := words.args.head?.getD []
  let out := words.text "out" []
  let wait := match words.value? "debounce" with
    | some (.duration d) => d
    | _ => 300000000
  let s ← setUp w words
  let report ← carryOut
    (Watch.rebuild w.tools s.logger s.catalog.refs s.config.compileOptions w.files dir out)
  print report.text
  let _ ← ofExcept (Watch.watchedDirs w.files dir)
  return .watching s dir out wait

/-- Does what a command does. -/
def perform (w : World) (words : Words) : Task → Action Next
  | .group => return .done
  | .catalog => do listCatalog w words; return .done
  | .compile => do compile w words; return .done
  | .showConfig => do showConfig w words; return .done
  | .validateConfig => do validateConfig w words; return .done
  | .starter => do starter words; return .done
  | .serve => do return .serving (← setUp w words)
  | .version => do showVersion w words; return .done
  | .watch => startWatch w words
  | .help => do showHelp words; return .done
  | .script => fail "completion scripts are not part of this build"

/-! ## Command lines -/

/-- Says which configuration file is used. -/
def noteConfigFile (w : World) (words : Words) : Action Unit :=
  match w.configFile words with
  | some ⟨name, .ok _⟩ => note ("Using config file: " ++ name ++ [newline])
  | _ => pure ()

/-- Runs a command with its words. -/
def invoke (w : World) (c : Command) (words : Words) : Action Next := do
  if words.isOn "help" || !c.isRunnable then
    print c.helpText
    return .done
  noteConfigFile w words
  match c.arity.error? c.title words.args with
  | some e => fail e
  | none => perform w words c.task

/-- **How a command line ends.** -/
structure Outcome where
  /-- The exit code. -/
  exit : Nat
  /-- What was printed. -/
  stdout : Bytes
  /-- What was printed about the run itself. -/
  stderr : Bytes
  /-- The files afterwards. -/
  files : Files
  /-- What goes on. -/
  next : Next := .done

/-- How an action ends. -/
def Outcome.ofAction (w : World) (a : Action Next) : Outcome :=
  let (result, c) := a.run { files := w.files }
  match result with
  | .ok next => ⟨0, c.stdout, c.stderr, c.files, next⟩
  | .error e => ⟨1, c.stdout, c.stderr ++ "Error: " ++ e.text ++ [newline], c.files, .done⟩

/-- **Runs a command line.** -/
def run (w : World) (args : List Bytes) : Outcome :=
  match Command.find args with
  | .error e => ⟨1, [], "Error: " ++ e ++ "\nRun 'templc --help' for usage.\n", w.files, .done⟩
  | .ok (c, rest) =>
    .ofAction w <|
      match Words.read c.allFlags rest with
      | .error e => fail e.message
      | .ok words => invoke w c words

end Stencil.Cli

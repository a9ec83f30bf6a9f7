import Stencil.Cli.Flag

/-!
# Commands

The program has commands, and some commands have commands below them. Each has flags of its
own and those that all commands have. `Command.find` says which command a command line
means: it goes down as long as the next argument is the name of a command.
-/

namespace Stencil.Cli

open Bytes

/-- How many arguments a command takes. -/
inductive Arity where
  /-- Any number. -/
  | any
  /-- None. -/
  | nothing
  /-- At least so many. -/
  | atLeast (n : Nat)
  /-- At most so many. -/
  | atMost (n : Nat)
  /-- Exactly so many. -/
  | exactly (n : Nat)
  deriving DecidableEq, Repr

/-- What is wrong with the arguments of a command of a title, if anything is. A command without
arguments takes the first one for the name of a command below it. -/
def Arity.error? (title : Bytes) (args : List Bytes) (a : Arity) : Option Bytes :=
  let count := args.length
  match a with
  | .any => none
  | .nothing => args.head?.map fun word =>
      "unknown command " ++ Quoted.quote word ++ " for " ++ Quoted.quote title
  | .atLeast n =>
    if count < n then
      some ("requires at least " ++ Bytes.ofNat n ++ " arg(s), only received " ++ Bytes.ofNat count)
    else none
  | .atMost n =>
    if n < count then
      some ("accepts at most " ++ Bytes.ofNat n ++ " arg(s), received " ++ Bytes.ofNat count)
    else none
  | .exactly n =>
    if count ≠ n then
      some ("accepts " ++ Bytes.ofNat n ++ " arg(s), received " ++ Bytes.ofNat count)
    else none

/-- What a command does. -/
inductive Task where
  /-- It shows what commands are below it. -/
  | group
  /-- It lists the reference modules. -/
  | catalog
  /-- It compiles a batch. -/
  | compile
  /-- It shows the configuration. -/
  | showConfig
  /-- It checks a configuration file. -/
  | validateConfig
  /-- It makes a new project. -/
  | starter
  /-- It starts the server. -/
  | serve
  /-- It shows what is known about the build. -/
  | version
  /-- It compiles a directory whenever that changes. -/
  | watch
  /-- It shows help. -/
  | help
  /-- It writes a script for a shell. -/
  | script
  deriving DecidableEq, Repr

/-- **A command.** -/
structure Command where
  /-- The names that lead to it; none for the program itself. -/
  path : List Bytes
  /-- How it is used, from its name on. -/
  use : Bytes
  /-- Other names. -/
  aliases : List Bytes := []
  /-- What it does, in a line. -/
  short : Bytes
  /-- What it does, in several lines; none if the line says it all. -/
  long : Bytes := []
  /-- Its own flags. -/
  flags : List Flag := []
  /-- Whether the line that shows its use mentions flags. -/
  mentionsFlags : Bool := true
  /-- How many arguments it takes. -/
  arity : Arity := .any
  /-- What it does. -/
  task : Task
  deriving DecidableEq, Repr

/-- Lines as one text. -/
def ofLines (ls : List String) : Bytes := join [newline] (ls.map Bytes.ofString)

/-- The name of the program. -/
def program : Bytes := "templc"

/-- The flags that all commands have. -/
def commonFlags : List Flag :=
  [{ name := "config"
     usage := "config file (default is .templc.yml, can also use TEMPLC_CONFIG_FILE env var)" },
    { name := "log-level", usage := "log level (debug, info, warn, error)" },
    { name := "catalog-url"
      usage := "fetch reference modules from this URL instead of the embedded library" },
    { name := "jobs", kind := .number
      usage := "maximum parallel transpilations (default GOMAXPROCS)" }]

namespace Command

/-- The program itself. -/
def root : Command where
  path := []
  use := program
  short := "Compile .tmpl components into loadable modules"
  long := ofLines ["templc compiles batches of .tmpl components into a single module and",
    "reports every templating and Go diagnostic against the original source lines.", "",
    "Quick Start:",
    "  templc compile ./components --out app.mod   Compile a directory",
    "  templc catalog                              List reference modules",
    "  templc serve                                Start the HTTP playground",
    "  templc watch ./components --out app.mod     Recompile on change"]
  flags := commonFlags
  task := .group

/-- Lists the reference modules. -/
def catalog : Command where
  path := ["catalog"]
  use := "catalog"
  aliases := ["ls"]
  short := "List the reference modules"
  long := ofLines ["Fetch the configured catalog roots and their imports, then list every",
    "reference module with its imports, size and exported components.", "", "Examples:",
    "  templc catalog", "  templc catalog --format json",
    "  templc catalog --catalog-url http://localhost:7331/modules/"]
  flags := [{ name := "format", letter := some (ch 'f'), usage := "output format (table, json)"
              default := "table" }]
  task := .catalog

/-- Compiles a batch. -/
def compile : Command where
  path := ["compile"]
  use := "compile [files or directories...]"
  short := "Compile component sources into a module"
  long := ofLines ["Compile a batch of .tmpl sources into a single module.", "",
    "Directories are walked recursively; hidden entries are skipped. Logical",
    "paths are relative to the directory with a leading slash. A file given",
    "directly keeps its relative path.", "", "Examples:",
    "  templc compile ./components --out app.mod",
    "  templc compile Page.tmpl Card.tmpl --format json",
    "  templc compile ./components --root /Home.tmpl --route /home"]
  flags := [{ name := "out", letter := some (ch 'o'), usage := "write the module to this file" },
    { name := "format", letter := some (ch 'f')
      usage := "diagnostic output format (text, json, yaml)", default := "text" },
    { name := "root", usage := "logical path of the root unit" },
    { name := "route", usage := "route injected into the root unit" }]
  arity := .atLeast 1
  task := .compile

/-- What there is about the configuration. -/
def config : Command where
  path := ["config"]
  use := "config"
  short := "Inspect templc configuration"
  long := ofLines ["Inspect templc configuration files and resolved settings.", "", "Examples:",
    "  templc config show                       # Show resolved configuration",
    "  templc config show --format json", "  templc config validate --file .templc.yml"]
  task := .group

/-- Shows the configuration. -/
def configShow : Command where
  path := ["config", "show"]
  use := "show"
  short := "Show current configuration"
  long := ofLines ["Display the configuration after loading the config file, applying",
    "TEMPLC_ environment overrides, command-line flags and defaults."]
  flags := [{ name := "format", usage := "Output format (yaml, json)", default := "yaml" }]
  task := .showConfig

/-- Checks a configuration file. -/
def configValidate : Command where
  path := ["config", "validate"]
  use := "validate"
  short := "Validate a configuration file"
  flags := [{ name := "file", usage := "configuration file to validate (default .templc.yml)" }]
  task := .validateConfig

/-- Makes a new project. -/
def starter : Command where
  path := ["init"]
  use := "init [directory]"
  short := "Create a starter project"
  long := ofLines ["Write a .templc.yml with the default settings and a components",
    "directory holding an _Imports.tmpl and two example components.", "", "Examples:",
    "  templc init", "  templc init my-site"]
  flags := [{ name := "force", kind := .switch, usage := "overwrite existing files" }]
  arity := .atMost 1
  task := .starter

/-- Starts the server. -/
def serve : Command where
  path := ["serve"]
  use := "serve"
  short := "Start the compile server and playground"
  long := ofLines ["Start an HTTP server that compiles component batches on request.", "",
    "Endpoints:",
    "  GET  /              playground page",
    "  POST /api/compile   compile a JSON batch, answer with the result",
    "  POST /overlay       compile a JSON batch, answer with an HTML overlay",
    "  GET  /ws            compile one batch, streaming phase progress",
    "  GET  /api/catalog   list reference modules",
    "  GET  /modules/      serve reference modules to other templc processes",
    "  GET  /health        health check", "", "Examples:", "  templc serve",
    "  templc serve --port 3000", "  templc serve --host 0.0.0.0"]
  flags := [
    { name := "host", letter := some (ch 'H'), usage := "host to bind to (default localhost)" },
    { name := "port", letter := some (ch 'p'), kind := .number
      usage := "port to listen on (default 7331)" }]
  task := .serve

/-- Shows what is known about the build. -/
def version : Command where
  path := ["version"]
  use := "version"
  short := "Show version information"
  long := ofLines ["Display the templc version, the commit it was built from and the",
    "module format it writes.", "", "Examples:", "  templc version",
    "  templc version --detailed", "  templc version --format json"]
  flags := [{ name := "format", letter := some (ch 'f'), usage := "Output format (text, json)"
              default := "text" },
    { name := "short", kind := .switch, usage := "Show short version only" },
    { name := "detailed", kind := .switch, usage := "Show detailed version information" }]
  task := .version

/-- Compiles a directory whenever that changes. -/
def watch : Command where
  path := ["watch"]
  use := "watch [directory]"
  short := "Recompile a directory whenever its sources change"
  long := ofLines ["Compile every .tmpl source below the directory, then recompile the",
    "whole batch after each change. The module is rewritten only when a",
    "compilation succeeds.", "", "Examples:", "  templc watch ./components --out app.mod",
    "  templc watch ./components --debounce 500ms"]
  flags := [{ name := "out", letter := some (ch 'o'), usage := "write the module to this file" },
    { name := "debounce", kind := .duration
      usage := "wait this long after the last change before compiling", default := "300ms" }]
  arity := .exactly 1
  task := .watch

/-- Shows help. -/
def help : Command where
  path := ["help"]
  use := "help [command]"
  short := "Help about any command"
  long := ofLines ["Help provides help for any command in the application.",
    "Simply type templc help [path to command] for full details."]
  task := .help

/-- What there is about scripts for shells. -/
def completion : Command where
  path := ["completion"]
  use := "completion"
  short := "Generate the autocompletion script for the specified shell"
  long := ofLines ["Generate the autocompletion script for templc for the specified shell.",
    "See each sub-command's help for details on how to use the generated script."]
  task := .group

/-- Writes a script for a shell, given what more there is to say about it. -/
def script (shell : Bytes) (long : List String) : Command where
  path := ["completion", shell]
  use := shell
  short := "Generate the autocompletion script for " ++ shell
  long := ofLines long
  flags := [{ name := "no-descriptions", kind := .switch
              usage := "disable completion descriptions" }]
  mentionsFlags := shell ≠ "bash"
  arity := .nothing
  task := .script

/-- The scripts for shells. -/
def scripts : List Command :=
  let session := "To load completions in your current shell session:"
  let always := "To load completions for every new session, execute once:"
  let fresh := "You will need to start a new shell for this setup to take effect."
  [script "bash"
      ["Generate the autocompletion script for the bash shell.", "",
        "This script depends on the 'bash-completion' package.",
        "If it is not installed already, you can install it via your OS's package manager.", "",
        session, "", "\tsource <(templc completion bash)", "", always, "", "#### Linux:", "",
        "\ttemplc completion bash > /etc/bash_completion.d/templc", "", "#### macOS:", "",
        "\ttemplc completion bash > $(brew --prefix)/etc/bash_completion.d/templc", "", fresh],
    script "fish"
      ["Generate the autocompletion script for the fish shell.", "",
        session, "", "\ttemplc completion fish | source", "", always, "",
        "\ttemplc completion fish > ~/.config/fish/completions/templc.fish", "", fresh],
    script "powershell"
      ["Generate the autocompletion script for powershell.", "",
        session, "", "\ttemplc completion powershell | Out-String | Invoke-Expression", "",
        "To load completions for every new session, add the output of the above command",
        "to your powershell profile."],
    script "zsh"
      ["Generate the autocompletion script for the zsh shell.", "",
        "If shell completion is not already enabled in your environment you will need",
        "to enable it.  You can execute the following once:", "",
        "\techo \"autoload -U compinit; compinit\" >> ~/.zshrc", "",
        session, "", "\tsource <(templc completion zsh)", "", always, "", "#### Linux:", "",
        "\ttemplc completion zsh > \"$\x7bfpath[1]\x7d/_templc\"", "", "#### macOS:", "",
        "\ttemplc completion zsh > $(brew --prefix)/share/zsh/site-functions/_templc", "", fresh]]

/-- **All commands**, those of a group in the order in which they are compared with what was
written. -/
def all : List Command :=
  [root, catalog, compile, config, configShow, configValidate, starter, serve, version, watch,
    help, completion] ++ scripts

/-- The name of a command. -/
def name (c : Command) : Bytes := c.path.getLast?.getD program

/-- A command with the names that lead to it. -/
def title (c : Command) : Bytes := join " " (program :: c.path)

/-- The commands below a command. -/
def children (c : Command) : List Command :=
  all.filter fun d => !d.path.isEmpty && d.path.dropLast = c.path

/-- Whether a command does more than to show what is below it. -/
def isRunnable (c : Command) : Bool := c.task ≠ .group

/-- The flag that asks for help. -/
def helpFlag (c : Command) : Flag :=
  { name := "help", letter := some (ch 'h'), kind := .switch, usage := "help for " ++ c.name }

/-- The flags that a command knows before it is asked for help. -/
def knownFlags (c : Command) : List Flag :=
  if c.path.isEmpty then c.flags else c.flags ++ commonFlags

/-- All flags that a command knows. -/
def allFlags (c : Command) : List Flag := c.knownFlags ++ [c.helpFlag]

/-! ## Which command is meant -/

/-- Whether a word is a flag whose value is the next word. -/
def takesNext (known : List Flag) (word : Bytes) : Bool :=
  let isSwitch (p : Flag → Bool) := (known.find? p).any fun f => f.kind = .switch
  !word.any (· = ch '=')
    && ((startsWith word "--" && !isSwitch fun f => f.name = word.drop 2)
      || (startsWith word "-" && word.length = 2
        && !isSwitch fun f => f.letter = (word.drop 1).head?))

/-- The words that are no flags and no values of flags. -/
def arguments (known : List Flag) : List Bytes → List Bytes
  | [] => []
  | word :: rest =>
    if word = "--" then []
    else if takesNext known word then
      match rest with
      | _ :: next :: more => arguments known (next :: more)
      | _ => []
    else if !word.isEmpty && word.head? ≠ some (ch '-') then word :: arguments known rest
    else arguments known rest

/-- The words without the first argument of a name. -/
def dropArgument (known : List Flag) (name : Bytes) : List Bytes → List Bytes
  | [] => []
  | word :: rest =>
    if word = "--" then word :: rest
    else if takesNext known word then
      match rest with
      | value :: more => word :: value :: dropArgument known name more
      | [] => [word]
    else if word = name then rest
    else word :: dropArgument known name rest

/-- Goes down to the command that words mean, with a bound on the depth. -/
def descend : Nat → Command → List Bytes → Command × List Bytes
  | 0, c, words => (c, words)
  | n + 1, c, words =>
    match arguments c.knownFlags words with
    | [] => (c, words)
    | next :: _ =>
      match c.children.find? fun d => d.name = next || d.aliases.contains next with
      | none => (c, words)
      | some d => descend n d (dropArgument c.knownFlags next words)

/-- The row of edit distances after one more letter of a word, given the distances to all
starts of the other word. -/
def distanceRow (a : UInt8) : Nat → List Nat → Bytes → List Nat
  | left, diagonal :: up :: row, b :: t =>
    let cost := if a = b then diagonal else 1 + min left (min diagonal up)
    cost :: distanceRow a cost (up :: row) t
  | _, _, _ => []

/-- **How many letters have to be changed** to get from one word to another. -/
def distance (s t : Bytes) : Nat :=
  let start := List.range (t.length + 1)
  let last := s.foldl (fun row a =>
    let left := row.head?.getD 0 + 1
    left :: distanceRow a left row t) start
  last.getLast?.getD 0

/-- The names of the commands that might be meant by a word that is none. -/
def suggestions (c : Command) (word : Bytes) : List Bytes :=
  ((c.children.filter fun d => d.task ≠ .help).map name).filter fun n =>
    distance (lower word) (lower n) ≤ 2 || startsWith (lower n) (lower word)

/-- What is said about a word that is no command. -/
def unknownCommand (c : Command) (word : Bytes) : Bytes :=
  let similar := c.suggestions word
  "unknown command " ++ Quoted.quote word ++ " for " ++ Quoted.quote c.title
    ++ (if similar.isEmpty then []
      else Bytes.ofString "\n\nDid you mean this?\n"
        ++ similar.flatMap fun n => ch '\t' :: n ++ [newline])

/-- **The command that words mean**, with the words for it; or what is said if there is no
such command. -/
def find (words : List Bytes) : Except Bytes (Command × List Bytes) :=
  let (c, rest) := descend 4 root words
  match arguments c.knownFlags rest with
  | word :: _ => if c.path.isEmpty then .error (unknownCommand c word) else .ok (c, rest)
  | [] => .ok (c, rest)

end Command

end Stencil.Cli

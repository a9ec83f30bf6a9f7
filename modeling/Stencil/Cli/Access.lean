import Stencil.Cli.Run

/-!
# What a command line looks at

A run is a function of the files that are there. `Cli.accesses` says which of them a command
line can look at, so that nobody has to know all files in order to run it; and
`Cli.variableNames` says the same of variables.
-/

namespace Stencil.Cli

open Bytes Stencil.Cli.Action

/-- **Something that a command line looks at.** -/
inductive Access where
  /-- A path, and all that is below it. -/
  | tree (path : Bytes)
  /-- A path alone. -/
  | entry (path : Bytes)
  deriving DecidableEq, Repr

/-- What a command looks at besides the configuration file. -/
def taskAccesses (words : Words) : Task → List Access
  | .compile | .watch => words.args.map Access.tree ++ [.entry (words.text "out" [])]
  | .validateConfig => [.entry Starter.configName, .entry (words.text "file" [])]
  | .starter =>
    let dir := words.args.head?.getD "."
    let inside := Path.joinTwo dir Starter.componentsName
    .entry (Path.joinTwo dir Starter.configName)
      :: Starter.components.map fun c => .entry (Path.joinTwo inside c.1)
  | _ => []

/-- **What a command line looks at**, given the configuration file that a variable names. -/
def accesses (configFile : Bytes) (args : List Bytes) : List Access :=
  match Command.find args with
  | .error _ => []
  | .ok (c, rest) =>
    match Words.read c.allFlags rest with
    | .error _ => []
    | .ok words =>
      (ConfigFile.searched ++ [configFile, words.text "config" []]).map Access.entry
        ++ taskAccesses words c.task

/-- The names of the variables that a command line looks at. -/
def variableNames : List Bytes :=
  let start : Bytes := "TEMPLC"
  let sections := Sources.membersOf Config.knownSettings
  configVariable :: sections.flatMap fun (s, inner) =>
    variableName start s
      :: (Sources.membersOf inner).map fun m => variableName start (s ++ "." ++ m.1)

/-! ## Watching -/

/-- The paths of sources that are new, other, or gone. -/
def changedPaths (old new : List SourceFile) : List Bytes :=
  let differs (known : List SourceFile) (s : SourceFile) := !known.contains s
  Bytes.dedup (((new.filter (differs old)) ++ (old.filter (differs new))).map SourceFile.path)

/-- **What a watch does when sources have changed.** It goes on unless there is a failure
that it cannot recover from. -/
def onChange (w : World) (s : Setup) (dir out : Bytes) (changed : List Bytes) : Outcome :=
  .ofAction w do
    note (s.logger.write .info none "Sources changed"
      [.text "events", .int changed.length, .text "first", .text (changed.head?.getD [])])
    let b := Watch.rebuild w.tools s.logger s.catalog.refs s.config.compileOptions w.files dir out
    match b.outcome with
    | .error e =>
      if Watch.stopsWatch e then
        let _ ← carryOut b
        return .done
      else
        note (s.logger.write .error (some e.text) "Handling changes failed" [])
        return .watching s dir out 0
    | .ok _ =>
      let report ← carryOut b
      print report.text
      return .watching s dir out 0

end Stencil.Cli

import Stencil.Compile.Report
import Stencil.Config
import Stencil.Watch.Sources

/-!
# Compiling a directory

A watcher compiles all sources below a directory, at first and after each change. The module
is written only if there is one, so what a file of a module has is always from the last
compilation that succeeded.

Sources that are wrong are reported and do not count as a failure. A failure ends the watch
unless it can be recovered from.
-/

namespace Stencil.Watch

open Bytes

/-- **What a compilation did.** -/
structure Rebuild where
  /-- The files after it. -/
  files : Files
  /-- What was logged. -/
  log : Bytes
  /-- What was reported, or why nothing was. -/
  outcome : Except Failure Compile.Report

/-- Whether a failure ends a watch. -/
def stopsWatch (e : Failure) : Bool := !e.isRecoverable

/-- The files with the module of a result written to a path, if there is a module and the
path is not empty. -/
def writeModule (f : Files) (out : Bytes) (r : Compile.Result) : Except Failure Files :=
  match r.module with
  | none => .ok f
  | some data =>
    if out.isEmpty then .ok f
    else
      match f.write out data with
      | .ok f => .ok f
      | .error e => .error (.wrapIo "ERR_FILE_WRITE_FAILED" "writing module" (.plain e))

/-- **Compiles sources** and writes their module to a path. -/
def buildFrom (tools : HostTools) (l : Log.Logger) (refs : List Reference) (o : Compile.Options)
    (f : Files) (out : Bytes) (sources : List SourceFile) : Rebuild :=
  let run := Compile.run tools .never refs sources o
  let log := run.log l
  match run.outcome with
  | .error e => ⟨f, log, .error e⟩
  | .ok result =>
    match writeModule f out result with
    | .error e => ⟨f, log, .error e⟩
    | .ok f => ⟨f, log, .ok ⟨result, out⟩⟩

/-- **Compiles the sources below a directory** and writes their module to a path. -/
def rebuild (tools : HostTools) (l : Log.Logger) (refs : List Reference) (o : Compile.Options)
    (f : Files) (dir out : Bytes) : Rebuild :=
  match collectSources f dir with
  | .error e => ⟨f, [], .error e⟩
  | .ok sources => buildFrom tools l refs o f out sources

end Stencil.Watch

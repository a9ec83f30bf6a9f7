import Stencil.Compile.Batch
import Stencil.Diagnostic.Wire
import Stencil.Log
import Stencil.Text.Yaml.Writer

/-!
# Reports of compilations

What became of a compilation can be told in three ways: as lines of text, as a JSON object
and as a YAML document. All three come from one `Report`.

What happens during a compilation is logged; `Compile.Run.log` says which lines its events
are.
-/

namespace Stencil.Compile

open Bytes

/-- **What is reported about a compilation.** -/
structure Report where
  /-- The answer. -/
  result : Result
  /-- The file that the module was written to, empty for none. -/
  output : Bytes := []
  deriving DecidableEq, Repr

namespace Report

/-- How many errors there are. -/
def errors (r : Report) : Nat := Diagnostic.count r.result.diagnostics .error

/-- How many warnings there are. -/
def warnings (r : Report) : Nat := Diagnostic.count r.result.diagnostics .warning

/-- The file with the module, empty if there is none. -/
def written (r : Report) : Bytes := if r.result.failed then [] else r.output

/-- A diagnostic on a line. -/
def line (d : Diagnostic) : Bytes :=
  let place : Bytes := if d.place.isEmpty then [] else d.place ++ ": "
  place ++ d.severity.name ++ " " ++ d.code ++ ": " ++ d.message ++ [newline]

/-- What the last line says. -/
def summary (r : Report) : Bytes :=
  let warned := Bytes.ofNat r.warnings ++ " warning(s)"
  if r.result.failed then "✗ " ++ Bytes.ofNat r.errors ++ " error(s), " ++ warned
  else
    "✓ compiled " ++ Bytes.ofNat r.result.size ++ " bytes, " ++ warned
      ++ (if r.output.isEmpty then [] else Bytes.ofString " → " ++ r.output)

/-- **The report in lines.** -/
def text (r : Report) : Bytes := r.result.diagnostics.flatMap line ++ r.summary ++ [newline]

/-- The JSON object of a report. -/
def toJson (r : Report) : Json :=
  let output : List (Bytes × Json) := if r.written.isEmpty then [] else [("output", .str r.written)]
  let first : List (Bytes × Json) :=
    [("failed", .bool r.result.failed), ("module_size", Json.ofNat r.result.size)]
  let counts : List (Bytes × Json) :=
    [("errors", Json.ofNat r.errors), ("warnings", Json.ofNat r.warnings),
      ("diagnostics", .arr (r.result.diagnostics.map Diagnostic.toJson))]
  .obj (first ++ output ++ counts)

/-- A diagnostic as a value of a document. -/
def setting (d : Diagnostic) : Setting :=
  .map [("code", .text d.code), ("severity", .text d.severity.name), ("message", .text d.message),
    ("file", if d.file.isEmpty then .null else .text d.file),
    ("line", if d.hasLine then .int d.line else .null), ("origin", .text d.origin.name)]

/-- The report as a value of a document. -/
def toSetting (r : Report) : Setting :=
  let output : List (Bytes × Setting) :=
    if r.written.isEmpty then [] else [("output", .text r.written)]
  let first : List (Bytes × Setting) :=
    [("failed", .bool r.result.failed), ("module_size", .int r.result.size)]
  let counts : List (Bytes × Setting) :=
    [("errors", .int r.errors), ("warnings", .int r.warnings),
      ("diagnostics", .list (r.result.diagnostics.map setting))]
  .map (first ++ output ++ counts)

end Report

/-- The forms of a report. -/
inductive ReportFormat where
  /-- Lines of text. -/
  | text
  /-- A JSON object. -/
  | json
  /-- A YAML document. -/
  | yaml
  deriving DecidableEq, Repr

/-- The form of a name, or what is said if there is none. -/
def ReportFormat.ofName (s : Bytes) : Except Failure ReportFormat :=
  if s = "text" then .ok .text
  else if s = "json" then .ok .json
  else if s = "yaml" then .ok .yaml
  else
    .error (.make .validation "ERR_INVALID_REQUEST"
      ("unsupported format: " ++ s ++ " (supported: text, json, yaml)"))

/-- **The report in a form.** -/
def Report.render (r : Report) : ReportFormat → Bytes
  | .text => r.text
  | .json => r.toJson.pretty 0 ++ [newline]
  | .yaml => Yaml.write 2 r.toSetting

/-! ## Logging -/

/-- What is logged about an event. -/
def Event.log (l : Log.Logger) : Event → Bytes
  | .phase _ => []
  | .declarationsFailed units errors =>
    l.write .debug none "Declaration pass failed, skipping compilation"
      [.text "units", .int units, .text "errors", .int errors]
  | .noTemporaryModule =>
    l.write .debug none "Temporary module unavailable, resolving against the catalog only" []
  | .completed units result =>
    (l.startOperation "compile").endOperation
      [.text "units", .int units,
        .text "errors", .int (Diagnostic.count result.diagnostics .error),
        .text "warnings", .int (Diagnostic.count result.diagnostics .warning),
        .text "module_bytes", .int result.size]

/-- **What is logged about a compilation.** -/
def Run.log (l : Log.Logger) (r : Run) : Bytes :=
  r.events.flatMap (Event.log (l.withComponent "pipeline"))

end Stencil.Compile

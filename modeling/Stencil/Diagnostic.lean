import Stencil.Text.Bytes

/-!
# Diagnostics

A diagnostic is one message about the caller's sources, whichever stage found
the problem: the templating stage, which reads component sources, or the host
stage, which checks the Go code generated from them. Both report the same
record, so a caller sorts, filters and prints one kind of thing.

The order of a list of diagnostics is the order of discovery and is kept by
every operation here; `merge` drops exact repetitions and nothing else.
-/

namespace Stencil

/-- How serious a diagnostic is. -/
inductive Severity where
  /-- Worth knowing, never shown by default. -/
  | info
  /-- Suspicious, but the batch still compiles. -/
  | warning
  /-- The batch does not compile. -/
  | error
  deriving DecidableEq, Repr

namespace Severity

/-- The name a severity is written with. -/
def name : Severity → Bytes
  | .info => "info"
  | .warning => "warning"
  | .error => "error"

/-- The severity a lower-case name stands for. -/
def ofName? (s : Bytes) : Option Severity :=
  if s = "info" then some .info
  else if s = "warning" then some .warning
  else if s = "error" then some .error
  else none

end Severity

/-- Which stage produced a diagnostic. -/
inductive Origin where
  /-- The stage that reads component sources. -/
  | templating
  /-- The stage that checks generated code. -/
  | host
  deriving DecidableEq, Repr

/-- The name an origin is written with. -/
def Origin.name : Origin → Bytes
  | .templating => "templating"
  | .host => "host"

/-- **One message about the caller's sources.** -/
structure Diagnostic where
  /-- The stable code of the kind of problem. -/
  code : Bytes
  /-- How serious the problem is. -/
  severity : Severity
  /-- The message for the reader. -/
  message : Bytes
  /-- The unit the message is about; empty when it is about none. -/
  file : Bytes
  /-- The one-based line; not positive when there is none. -/
  line : Int
  /-- The stage that produced the message. -/
  origin : Origin
  deriving DecidableEq, Repr

namespace Diagnostic

/-- Whether the diagnostic points at a line. -/
def hasLine (d : Diagnostic) : Bool := 0 < d.line

/-- Where the diagnostic points: file and line, the file alone, or nothing. -/
def location (d : Diagnostic) : Bytes :=
  if d.file.isEmpty then []
  else if d.hasLine then d.file ++ ":" ++ Bytes.ofInt d.line
  else d.file

/-- Where the diagnostic points, with a line even where no file is known. -/
def place (d : Diagnostic) : Bytes :=
  if d.hasLine then d.file ++ ":" ++ Bytes.ofInt d.line else d.file

/-- The diagnostic on one line, as it is printed. -/
def render (d : Diagnostic) : Bytes :=
  let place : Bytes := if d.file.isEmpty then [] else d.location ++ ": "
  place ++ d.severity.name ++ " " ++ d.code ++ ": " ++ d.message

/-- Whether some diagnostic of a list is an error. -/
def hasErrors (ds : List Diagnostic) : Bool :=
  ds.any fun d => d.severity = .error

/-- How many diagnostics of a list have exactly the given severity. -/
def count (ds : List Diagnostic) (s : Severity) : Nat :=
  ds.countP fun d => d.severity = s

/-- The diagnostics worth showing: all but the informational ones. -/
def aboveInfo (ds : List Diagnostic) : List Diagnostic :=
  ds.filter fun d => d.severity ≠ .info

/-- A list with every exact repetition after the first occurrence dropped. -/
def dedup (ds : List Diagnostic) : List Diagnostic :=
  (ds.foldl (fun acc d => if acc.contains d then acc else d :: acc) []).reverse

/-- **The groups in order, each distinct diagnostic once**, at its first place. -/
def merge (groups : List (List Diagnostic)) : List Diagnostic :=
  dedup groups.flatten

end Diagnostic

end Stencil

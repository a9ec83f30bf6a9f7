import Stencil.Diagnostic
import Stencil.Text.Json
import Stencil.Text.Quoted

/-!
# Diagnostics on the wire

A diagnostic travels as a JSON object with the members `code`, `severity`, `message`,
`file`, `line` and `origin`, in this order. A missing file or line is null.

Reading is lenient about everything but the types of the members and the name of the
severity: member names match in any case, unknown members are ignored, of repeated
members the last one counts, and null leaves a member as if it were absent.
-/

namespace Stencil

open Bytes

/-- Why a text is no severity or a value no diagnostic. -/
inductive WireError where
  /-- A severity of no known name. -/
  | unknownSeverity (name : Bytes)
  /-- A value of the wrong type. -/
  | malformed
  deriving DecidableEq, Repr

/-- The wording of an unknown severity. -/
def WireError.message : WireError → Bytes
  | .unknownSeverity name => "unknown severity " ++ Quoted.quote name
  | .malformed => "malformed diagnostic"

/-- The severity a text names, in any case. -/
def Severity.parse (s : Bytes) : Except WireError Severity :=
  match Severity.ofName? (lowerText s) with
  | some sev => .ok sev
  | none => .error (.unknownSeverity s)

namespace Diagnostic

/-- The members of a diagnostic object as far as they have been read. -/
structure Draft where
  /-- The code. -/
  code : Bytes := []
  /-- The name of the severity. -/
  severity : Bytes := []
  /-- The message. -/
  message : Bytes := []
  /-- The file, empty for none. -/
  file : Bytes := []
  /-- The line, zero for none. -/
  line : Int := 0
  /-- The name of the origin. -/
  origin : Bytes := []

/-- The value of a text member; null keeps what is there. -/
def textMember (old : Bytes) : Json → Except WireError Bytes
  | .null => .ok old
  | .str s => .ok s
  | _ => .error .malformed

/-- The draft after one more member. A null file or line removes what is there. -/
def Draft.member (d : Draft) (name : Bytes) (v : Json) : Except WireError Draft :=
  let key := Json.foldName name
  if key = "CODE" then (textMember d.code v).map fun t => { d with code := t }
  else if key = "SEVERITY" then (textMember d.severity v).map fun t => { d with severity := t }
  else if key = "MESSAGE" then (textMember d.message v).map fun t => { d with message := t }
  else if key = "ORIGIN" then (textMember d.origin v).map fun t => { d with origin := t }
  else if key = "FILE" then (textMember [] v).map fun t => { d with file := t }
  else if key = "LINE" then
    match v with
    | .null => .ok { d with line := 0 }
    | v =>
      match v.int64? with
      | some n => .ok { d with line := n }
      | none => .error .malformed
  else .ok d

/-- The draft of an object's members, in order. -/
def Draft.ofMembers (ms : List (Bytes × Json)) : Except WireError Draft :=
  ms.foldlM (fun d (k, v) => d.member k v) {}

/-- **The diagnostic of a JSON value.** -/
def ofJson (v : Json) : Except WireError Diagnostic := do
  let d ← match v with
    | .obj ms => Draft.ofMembers ms
    | .null => .ok {}
    | _ => .error .malformed
  let severity ← Severity.parse d.severity
  return {
    code := d.code, severity, message := d.message, file := d.file, line := d.line
    origin := if d.origin = Origin.host.name then .host else .templating }

/-- **The JSON object of a diagnostic.** -/
def toJson (d : Diagnostic) : Json :=
  .obj [("code", .str d.code), ("severity", .str d.severity.name), ("message", .str d.message),
    ("file", if d.file.isEmpty then .null else .str d.file),
    ("line", if d.hasLine then Json.ofInt d.line else .null), ("origin", .str d.origin.name)]

end Diagnostic

end Stencil

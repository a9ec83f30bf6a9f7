import Stencil.Compile.Batch
import Stencil.Text.Json
import Stencil.Text.Quoted
import Stencil.Text.Slots

/-!
# Requests for compilations

A request is a JSON object with the files and, optionally, another root unit and another
route than those of the configuration. Member names match in any case, but unknown ones are
refused. Null leaves a member as it is. Files that are given twice are merged one by one.

A request must have files, and no path may be blank or lead upwards.
-/

namespace Stencil

open Bytes

/-- **A request for a compilation.** -/
structure CompileRequest where
  /-- The files. -/
  files : List SourceFile := []
  /-- The path of the root unit, empty for the configured one. -/
  root : Bytes := []
  /-- The route of the root unit, empty for the configured one. -/
  route : Bytes := []
  deriving DecidableEq, Repr

/-- **What is wrong with a request.** -/
inductive RequestError where
  /-- It is not a JSON object of the right form. -/
  | malformed
  /-- There are no files. -/
  | noFiles
  /-- The path of a file is blank. -/
  | noPath (index : Nat)
  /-- The path of a file leads upwards. -/
  | traversal (path : Bytes)
  deriving DecidableEq, Repr

namespace RequestError

/-- The failure of a request. -/
def failure : RequestError → Failure
  | .malformed =>
    .wrap .validation "ERR_INVALID_REQUEST" "invalid JSON request" (.plain "malformed JSON")
  | .noFiles => .make .validation "ERR_INVALID_REQUEST" "request has no files"
  | .noPath i =>
    .make .validation "ERR_INVALID_REQUEST" ("file " ++ Bytes.ofNat i ++ " has no path")
  | .traversal p =>
    .make .validation "ERR_INVALID_REQUEST" ("path " ++ Quoted.quote p ++ " contains traversal")

end RequestError

namespace CompileRequest

/-- The value of a text member. -/
def textMember (old : Bytes) : Json → Except RequestError Bytes
  | .null => .ok old
  | .str s => .ok s
  | _ => .error .malformed

/-- A file after one more member. -/
def fileMember (f : SourceFile) (m : Bytes × Json) : Except RequestError SourceFile :=
  let key := Json.foldName m.1
  if key = "PATH" then (textMember f.path m.2).map fun t => { f with path := t }
  else if key = "TEXT" then (textMember f.text m.2).map fun t => { f with text := t }
  else .error .malformed

/-- A file, given the one that was there before. -/
def file (old : SourceFile) : Json → Except RequestError SourceFile
  | .null => .ok old
  | .obj ms => ms.foldlM fileMember old
  | _ => .error .malformed

/-- Files, each onto the one that stands in its place. -/
def fileList : List SourceFile → List Json → Except RequestError (List SourceFile)
  | _, [] => .ok []
  | old, v :: vs => do
    let f ← file (old.headD ⟨[], []⟩) v
    return f :: (← fileList old.tail vs)

/-- A request as far as it has been read. -/
structure Draft where
  /-- The files. -/
  files : Slots SourceFile := {}
  /-- The path of the root unit. -/
  root : Bytes := []
  /-- The route of the root unit. -/
  route : Bytes := []

/-- A request after one more member. An empty list, and none, forget the files of lists
before. -/
def Draft.member (r : Draft) (m : Bytes × Json) : Except RequestError Draft :=
  let key := Json.foldName m.1
  if key = "FILES" then
    match m.2 with
    | .null | .arr [] => .ok { r with files := {} }
    | .arr items => (fileList r.files.places items).map fun fs =>
      { r with files := r.files.refill fs }
    | _ => .error .malformed
  else if key = "ROOT" then (textMember r.root m.2).map fun t => { r with root := t }
  else if key = "ROUTE" then (textMember r.route m.2).map fun t => { r with route := t }
  else .error .malformed

/-- The request that a value is. -/
def ofJson : Json → Except RequestError CompileRequest
  | .null => .ok {}
  | .obj ms => (ms.foldlM Draft.member {}).map fun d =>
    { files := d.files.items, root := d.root, route := d.route }
  | _ => .error .malformed

/-- The first file with a bad path, if there is one. -/
def pathError? : Nat → List SourceFile → Option RequestError
  | _, [] => none
  | i, f :: fs =>
    if (trim f.path).isEmpty then some (.noPath i)
    else if Bytes.contains f.path ".." then some (.traversal f.path)
    else pathError? (i + 1) fs

/-- What is wrong with a request, if anything is. -/
def error? (r : CompileRequest) : Option RequestError :=
  if r.files.isEmpty then some .noFiles else pathError? 0 r.files

/-- The number of bytes of a request that are read. -/
def maxSize : Nat := 8388608

/-- **The request in a body.** Only the first value of the body counts. -/
def decode (body : Bytes) : Except RequestError CompileRequest := do
  let r ← match Json.readValue? (body.take maxSize) with
    | none => .error .malformed
    | some (v, _) => ofJson v
  match r.error? with
  | some e => .error e
  | none => return r

/-- The settings of a compilation with what the request says about the root unit. -/
def options (r : CompileRequest) (o : Compile.Options) : Compile.Options :=
  if r.root.isEmpty && r.route.isEmpty then o else o.withRoot r.root r.route

end CompileRequest

end Stencil

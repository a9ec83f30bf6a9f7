import Stencil.Diagnostic
import Stencil.Generated.Line
import Stencil.Host.Message
import Stencil.Source.Unit

/-!
# Errors of the host language as diagnostics

The Go front end knows only generated files. A `GeneratedFile` ties such a file to the
unit it was generated for, and this module carries each error back: the file becomes
the unit, the line goes through the source map and loses the lines that were put in
front of a root, and positions that the message itself quotes are replaced the same
way.

An error can have several places. The front end reports the further ones as errors of
their own whose message starts with a tab; they are folded into the diagnostic before
them.
-/

namespace Stencil

open Bytes

/-- A place in generated code; the line is zero when there is none. -/
structure Position where
  /-- The name of the generated file. -/
  file : Bytes := []
  /-- The one-based line. -/
  line : Nat := 0
  deriving DecidableEq, Repr

/-- **An error as the front end reports it.** -/
inductive HostError where
  /-- An error of the type checker. -/
  | typing (pos : Position) (msg : Bytes)
  /-- An error of the parser. -/
  | grammar (pos : Position) (msg : Bytes)
  /-- The errors of one run of the parser. -/
  | grammarList (errors : List (Position × Bytes))
  /-- Any other failure, which has no place. -/
  | other (msg : Bytes)
  deriving DecidableEq, Repr

/-- The one-based line of the caller's text for a zero-based line of what was read. A
root is shifted back by the lines put in front of it, and the result is at least 1. -/
def shiftLine (mapped : Int) (role : Role) (injected : Int) : Int :=
  max 1 (mapped + 1 - match role with | .root => injected | .component => 0)

/-- **A generated file and the unit it was generated for.** -/
structure GeneratedFile where
  /-- The name the front end saw. -/
  name : Bytes
  /-- The path of the unit. -/
  source : Bytes
  /-- The role of the unit. -/
  role : Role
  /-- The lines put in front of the unit's text. -/
  injected : Int
  /-- The source map, if there is one. -/
  lines : Option SourceMap
  deriving DecidableEq, Repr

namespace GeneratedFile

/-- The file of a name; of several, the last. -/
def find? (files : List GeneratedFile) (name : Bytes) : Option GeneratedFile :=
  files.reverse.find? fun f => f.name = name

/-- The line of the caller's text for a generated line, zero when it has none. -/
def sourceLine (f : GeneratedFile) (generated : Nat) : Int :=
  match f.lines with
  | none => 0
  | some m =>
    match m.lookup generated with
    | some mapped => if generated = 0 then 0 else shiftLine mapped f.role f.injected
    | none => 0

/-- A generated line as the reader sees it: the unit and, where there is one, the line. -/
def location (f : GeneratedFile) (generated : Nat) : Bytes :=
  let line := f.sourceLine generated
  if 0 < line then f.source ++ ":" ++ Bytes.ofInt line else f.source

end GeneratedFile

/-! ## Positions inside messages -/

/-- The bytes of a file name inside a message. -/
def isNameByte (c : UInt8) : Bool :=
  isIdentChar c || c = ch '.' || c = slash || c = ch '-'

/-- A colon and digits at the front of a text: the digits, and what follows. -/
def colonDigits? : Bytes → Option (Bytes × Bytes)
  | [] => none
  | c :: s =>
    let (ds, r) := s.span isDigit
    if c = ch ':' && !ds.isEmpty then some (ds, r) else none

/-- What follows the line and, if there is one, the column at the front of a text, with
the line. -/
def lineAndColumn? (s : Bytes) : Option (Nat × Bytes) :=
  (colonDigits? s).map fun (ds, r) =>
    (digitsValue ds, ((colonDigits? r).map Prod.snd).getD r)

/-- **The message with every position in a generated file replaced** by its place in
the unit. A position is a run of name bytes that ends in `.go`, a colon and a line. -/
def relocatePositions (files : List GeneratedFile) (msg : Bytes) : Bytes :=
  if files.isEmpty then msg else go (msg.length + 1) msg
where
  /-- The rest of a message, at most `fuel` runs long. -/
  go : Nat → Bytes → Bytes
    | 0, s => s
    | _, [] => []
    | fuel + 1, c :: s =>
      let (name, r) := (c :: s).span isNameByte
      if name.isEmpty then c :: go fuel s
      else if endsWith name ".go" && 4 ≤ name.length then
        match lineAndColumn? r with
        | some (line, rest) =>
          let place : Bytes := match GeneratedFile.find? files name with
            | some f => f.location line
            | none => (name ++ r).take (name.length + r.length - rest.length)
          place ++ go fuel rest
        | none => name ++ go fuel r
      else name ++ go fuel r

/-! ## Errors to diagnostics -/

/-- The diagnostic of a message at a place. -/
def Diagnostic.ofHost (files : List GeneratedFile) (grammar : Bool) (pos : Position)
    (msg : Bytes) : Diagnostic :=
  let known := GeneratedFile.find? files pos.file
  { code := (HostClass.ofMessage msg grammar).code
    severity := .error
    message := relocatePositions files msg
    file := (known.map GeneratedFile.source).getD pos.file
    line := (known.map fun f => f.sourceLine pos.line).getD 0
    origin := .host }

namespace HostError

/-- The diagnostics of an error. -/
def diagnostics (files : List GeneratedFile) : HostError → List Diagnostic
  | .typing pos msg => [.ofHost files false pos msg]
  | .grammar pos msg => [.ofHost files true pos msg]
  | .grammarList errors => errors.map fun (pos, msg) => .ofHost files true pos msg
  | .other msg => [.ofHost [] false {} msg]

/-- A further place as its own diagnostic: the message, trimmed, and where it is. -/
def note (files : List GeneratedFile) (pos : Position) (msg : Bytes) : Diagnostic :=
  let d := Diagnostic.ofHost files false pos msg
  { d with
    message := trim d.message
      ++ (if d.location.isEmpty then ([] : Bytes) else " at " ++ d.location) }

/-- **The diagnostics with those of one more error.** -/
def append (files : List GeneratedFile) (ds : List Diagnostic) (e : HostError) :
    List Diagnostic :=
  match e with
  | .typing pos msg =>
    if startsWith msg [0x09] then
      let n := note files pos msg
      match ds.getLast? with
      | some last =>
        if last.origin = .host then
          ds.dropLast ++ [{ last with message := last.message ++ "; " ++ n.message }]
        else ds ++ [n]
      | none => [n]
    else ds ++ e.diagnostics files
  | e => ds ++ e.diagnostics files

end HostError

end Stencil

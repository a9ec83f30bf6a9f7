import Stencil.Catalog.Reference
import Stencil.Failure
import Stencil.Log

/-!
# The reference catalog

A catalog has the modules that every compilation of a process can import. It is made once:
a few root modules are fetched by name, and then the modules those say they import. What
these in turn import is not fetched.

The fetches of a round are all started and may end in any order, so a round is given the
order in which they end. A fetch that fails makes the whole catalog fail.
-/

namespace Stencil

open Bytes

/-- **The modules that compilations can import**, by path. -/
structure Catalog where
  /-- The references, by ascending path. -/
  refs : List Reference
  deriving DecidableEq, Repr

namespace Catalog

/-- The modules fetched when nothing else is asked for. -/
def defaultRoots : List Bytes := [Bytes.ofString "templc/ui", Bytes.ofString "templc/runtime"]

/-- The catalog of references. -/
def ofReferences (refs : List Reference) : Catalog :=
  ⟨refs.mergeSort fun a b => Bytes.le a.path b.path⟩

/-- The reference to a path. -/
def find? (c : Catalog) (path : Bytes) : Option Reference := Reference.find? c.refs path

/-- How many modules there are. -/
def size (c : Catalog) : Nat := c.refs.length

/-- The catalog with one more reference. -/
def add (c : Catalog) (r : Reference) : Catalog := ofReferences (c.refs ++ [r])

/-! ## Making a catalog -/

/-- Where modules come from: the file of a module by its name, or why there is none. -/
abbrev Fetcher := Bytes → Except Failure Bytes

/-- The module of a name, if what is fetched is a module that says it has this name. -/
def fetchOne (fetch : Fetcher) (name : Bytes) : Except Failure Reference :=
  match fetch name with
  | .error e => .error (.fetch name (some e))
  | .ok data =>
    match Reference.ofBytes data with
    | .error e =>
      .error (.corruptModule name "reference module is not a valid module" (.plain e.message))
    | .ok r =>
      if r.path = name then .ok r
      else
        .error ((Failure.make .build "ERR_MODULE_FORMAT"
          ("fetched module declares path " ++ r.path)).mapInfo fun i => { i with module := name })

/-- **What a round of fetches has come to.** The fetches of a round share a table of modules,
and one place for a failure. -/
structure Round where
  /-- The names whose fetches have ended, in this order. -/
  ended : List Bytes := []
  /-- The modules that were found, in the order in which their fetches ended. -/
  found : List Reference := []
  /-- Why the first fetch that failed did. -/
  failure : Option Failure := none

namespace Round

/-- **A fetch of a round ends**: its module goes into the table, or its failure is kept if there
was none before. -/
def finish (fetch : Fetcher) (r : Round) (name : Bytes) : Round :=
  let r := { r with ended := r.ended ++ [name] }
  match fetchOne fetch name with
  | .ok m => { r with found := r.found ++ [m] }
  | .error e => { r with failure := some (r.failure.getD e) }

/-- What comes of a round whose fetches have all ended: all modules, or the failure that came
first. -/
def outcome (r : Round) : Except Failure (List Reference) :=
  match r.failure with
  | some e => .error e
  | none => .ok r.found

end Round

/-- A round of fetches that end in the given order. -/
def fetchAll (fetch : Fetcher) (names : List Bytes) : Round := names.foldl (Round.finish fetch) {}

/-- The names that roots import and that are no roots, sorted. -/
def dependencies (roots : List Reference) : List Bytes :=
  Bytes.sort (Bytes.dedup ((roots.flatMap Reference.imports).filter fun i =>
    !roots.any fun r => r.path = i))

/-- The order in which the fetches of a round end, given that in which they start. -/
abbrev Completion := List Bytes → List Bytes

/-- **How a catalog was made.** -/
structure Initialization where
  /-- The names that were fetched, in order. -/
  requested : List Bytes
  /-- The catalog. -/
  outcome : Except Failure Catalog
  /-- What is logged about it. -/
  log : Log.Logger → Bytes

/-- The given roots, or the usual ones if there are none. -/
def rootsOr (roots : List Bytes) : List Bytes := if roots.isEmpty then defaultRoots else roots

/-- **Makes a catalog** of the given roots, or the usual ones if there are none. -/
def ofRoots (fetch : Fetcher) (completion : Completion) (roots : List Bytes) :
    Initialization :=
  let roots := Bytes.dedup (rootsOr roots)
  let first := fetchAll fetch (completion roots)
  let logged (level : Log.Level) (error : Option Failure) (message : Bytes)
      (fields : List Log.Value) (l : Log.Logger) : Bytes :=
    (l.withComponent "catalog").write level (error.map Failure.text) message fields
  match first.outcome with
  | .error e =>
    ⟨first.ended, .error e,
      logged .error (some e) "Fetching root modules failed" [.text "roots", .texts roots]⟩
  | .ok found =>
    let needed := dependencies found
    let second := fetchAll fetch (completion needed)
    match second.outcome with
    | .error e =>
      ⟨first.ended ++ second.ended, .error e,
        logged .error (some e) "Fetching dependency modules failed"
          [.text "dependencies", .texts needed]⟩
    | .ok more =>
      let refs := found ++ more
      ⟨first.ended ++ second.ended, .ok (ofReferences refs),
        logged .info none "Reference catalog initialized"
          [.text "modules", .int refs.length, .text "roots", .int roots.length]⟩

end Catalog

end Stencil

import Stencil.Module.Msgpack

/-!
# Archives

An archive holds what is needed to know a package: the sources of the package and of all
packages it needs, each after those it needs itself. Archives are written as records of
MessagePack behind a line that tells them from anything else.
-/

namespace Stencil.Host

open Bytes Msgpack

/-- A package in an archive. -/
structure Archived where
  /-- The import path. -/
  path : Bytes
  /-- The names and texts of its files. -/
  files : List (Bytes × Bytes)
  deriving DecidableEq, Repr

/-- **A package and all it needs, needed ones first.** -/
abbrev Archive := List Archived

namespace Archive

/-- The line an archive starts with. -/
def heading : Bytes := "packages\n"

/-- The archive as bytes. -/
def encode (a : Archive) : Bytes :=
  let file (f : Bytes × Bytes) : Bytes := putArray [putText f.1, putBinary f.2]
  let package (p : Archived) : Bytes := putArray [putText p.path, putArray (p.files.map file)]
  heading ++ putArray (a.map package)

/-- A pair in an array of two. -/
def pair (p : Parser α) (q : Parser β) : Parser (α × β)
  | [] => none
  | h :: r =>
    if h ≠ 0x92 then none
    else do
      let (a, r) ← p r
      let (b, r) ← q r
      return ((a, b), r)

/-- The archive that bytes write, if they do. -/
def decode (s : Bytes) : Option Archive :=
  match dropPrefix? heading s with
  | none => none
  | some r =>
    let package : Parser (Bytes × List (Bytes × Bytes)) :=
      pair text fun s => (array? (pair text text) s).map fun (l, r) => (l.getD [], r)
    match array? package r with
    | some (some l, []) => some (l.map fun (p, fs) => ⟨p, fs⟩)
    | _ => none

/-- The first archive with the packages of the second that are not in it. -/
def merge (a b : Archive) : Archive := a ++ b.filter fun p => !a.any fun q => q.path = p.path

end Archive

end Stencil.Host

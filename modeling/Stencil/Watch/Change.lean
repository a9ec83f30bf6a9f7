import Stencil.Source.Unit
import Stencil.Text.Path

/-!
# Changes of files

A change says what happened to which file, and what the file was like when this was noticed: when
it was last written to and how large it was. The system reports several things at once; what
counts is the first of: created, modified, deleted, renamed.

Only changes of component sources matter, and only where they are not hidden: a name that
starts with a dot hides a file and all below it, and editors keep their own files under
names that end in a tilde or start with a number sign.
-/

namespace Stencil.Watch

open Bytes

/-- What happened to a file. -/
inductive ChangeKind where
  /-- It is new. -/
  | created
  /-- It has another content. -/
  | modified
  /-- It is gone. -/
  | deleted
  /-- It has another name. -/
  | renamed
  /-- Nobody knows. -/
  | unknown
  deriving DecidableEq, Repr

namespace ChangeKind

/-- The kind of a number. -/
def ofInt (n : Int) : ChangeKind :=
  if n = 0 then .created
  else if n = 1 then .modified
  else if n = 2 then .deleted
  else if n = 3 then .renamed
  else .unknown

/-- The name of a kind. -/
def name : ChangeKind → Bytes
  | .created => "created"
  | .modified => "modified"
  | .deleted => "deleted"
  | .renamed => "renamed"
  | .unknown => "unknown"

/-- What happened, given the bits that the system reports: 1 for created, 2 for written,
4 for removed and 8 for renamed. -/
def ofBits (bits : Nat) : ChangeKind :=
  if bits % 2 = 1 then .created
  else if bits / 2 % 2 = 1 then .modified
  else if bits / 4 % 2 = 1 then .deleted
  else if bits / 8 % 2 = 1 then .renamed
  else .modified

end ChangeKind

/-- What is noticed about a file. -/
structure FileInfo where
  /-- Its path. -/
  path : Bytes
  /-- When it was last written to, in nanoseconds, unless nobody can tell. -/
  modifiedAt : Option Int := none
  /-- Its size. -/
  size : Int64 := 0
  deriving DecidableEq, Repr

/-- A file about which nothing but its path can be told, since it is gone. -/
instance : Coe Bytes FileInfo := ⟨fun path => { path }⟩

/-- **A change of a file.** -/
structure Change where
  /-- What happened. -/
  kind : ChangeKind
  /-- What was noticed about the file. -/
  file : FileInfo
  deriving DecidableEq, Repr

/-- The path of the file. -/
def Change.path (c : Change) : Bytes := c.file.path

/-- Whether a path is that of a component source. -/
def isSource (path : Bytes) : Bool := Path.ext path = SourceUnit.extension

/-- Whether a part of a path hides what is below it. -/
def isHiddenPart (part : Bytes) : Bool :=
  1 < part.length && part.head? = some (ch '.') && part ≠ ".."

/-- Whether nothing about a path says that it is none of our business. -/
def isVisible (path : Bytes) : Bool :=
  let base := Path.base path
  !(splitOn slash path).any isHiddenPart && base.getLast? ≠ some (ch '~')
    && base.head? ≠ some (ch '#')

/-- A filter of paths. -/
abbrev Filter := Bytes → Bool

/-- The filters of a watch: what is no source or is hidden does not matter. -/
def filters : List Filter := [isSource, isVisible]

/-- **The change that a report of the system stands for**, if all filters accept its
path. -/
def Change.ofReport? (filters : List Filter) (file : FileInfo) (bits : Nat) : Option Change :=
  if filters.all fun f => f file.path then some ⟨.ofBits bits, file⟩ else none

end Stencil.Watch

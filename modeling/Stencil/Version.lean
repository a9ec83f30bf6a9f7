import Stencil.Module
import Stencil.Text.Json
import Stencil.Text.Timestamp

/-!
# What is known about a build

A build can know its version, the commit it was made from and when it was made. Builds for
development know none of it.
-/

namespace Stencil

open Bytes

/-- **What a build knows about itself.** -/
structure BuildInfo where
  /-- The version. -/
  version : Bytes
  /-- The commit. -/
  commit : Bytes
  /-- When it was made. -/
  built : Timestamp
  /-- The layout of the modules it writes. -/
  moduleFormat : Bytes := Module.currentFormat
  deriving DecidableEq, Repr

namespace BuildInfo

/-- The version of a build that has none. -/
def devVersion : Bytes := "dev"

/-- The commit of a build that has none. -/
def unknownCommit : Bytes := "unknown"

/-- What a build knows, given what it was told; an empty text says nothing, nor does a time
that cannot be read. -/
def ofTexts (version commit built : Bytes) : BuildInfo where
  version := if version.isEmpty then devVersion else version
  commit := if commit.isEmpty then unknownCommit else commit
  built := (Timestamp.parse? built).getD .zero

/-- A build for development. -/
def dev : BuildInfo := ofTexts [] [] []

/-- The version on a few characters: with the start of the commit, if that is known. -/
def short (b : BuildInfo) : Bytes :=
  if b.commit ≠ unknownCommit && 7 ≤ b.commit.length then
    if b.version ≠ devVersion then b.version ++ " (" ++ b.commit.take 7 ++ ")"
    else "dev-" ++ b.commit.take 7
  else b.version

/-- All that is known, one fact on a line. What the build runs on stands between the build
itself and the modules it writes. -/
def detailed (b : BuildInfo) (machine : List Bytes) : List Bytes :=
  ["Version: " ++ b.version]
    ++ (if b.commit = unknownCommit then [] else ["Commit: " ++ b.commit])
    ++ (if b.built.isZero then [] else ["Built: " ++ b.built.render])
    ++ machine ++ ["Module format: " ++ b.moduleFormat]

end BuildInfo

/-- **What a build runs on.** -/
structure Machine where
  /-- The version of the language of the templates' code. -/
  language : Bytes
  /-- The system and its processor. -/
  platform : Bytes
  deriving DecidableEq, Repr

/-- What is said about a machine, one fact on a line. -/
def Machine.facts (m : Machine) : List Bytes := ["Go: " ++ m.language, "Platform: " ++ m.platform]

namespace BuildInfo

/-- **The usual two lines about a build.** -/
def banner (b : BuildInfo) (m : Machine) : Bytes :=
  let commit : Bytes := if b.commit ≠ unknownCommit && 7 ≤ b.commit.length then
    " (" ++ b.commit.take 7 ++ ")" else []
  "templc " ++ b.version ++ commit ++ "\nmodule format " ++ b.moduleFormat ++ ", " ++ m.platform
    ++ [newline]

/-- The JSON object of a build. -/
def toJson (b : BuildInfo) (m : Machine) : Json :=
  .obj [("version", .str b.version), ("git_commit", .str b.commit),
    ("build_time", .str b.built.renderExact), ("go_version", .str m.language),
    ("platform", .str m.platform), ("module_format", .str b.moduleFormat)]

end BuildInfo

end Stencil

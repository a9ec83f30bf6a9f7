import Stencil.Catalog
import Stencil.Text.Json

/-!
# Listing a catalog

A catalog is listed as a table with a line for each module, or as a JSON array.
-/

namespace Stencil

open Bytes

/-- **The JSON object of a module** in a listing. -/
def Reference.toJson (r : Reference) : Json :=
  .obj [("path", .str r.path),
    ("imports", if r.imports.isEmpty then .null else .arr (r.imports.map Json.str)),
    ("size", Json.ofNat r.size),
    ("components", .arr (r.components.map fun (c : Component) => Json.str c.name))]

namespace Catalog

/-- The JSON array of a catalog. -/
def toJson (c : Catalog) : Json := .arr (c.refs.map Reference.toJson)

/-- The spaces between two columns of a table. -/
def columnGap : Nat := 2

/-- Rows as a table: every column is as wide as its widest cell, and the last one as wide
as it needs to be. -/
def table (rows : List (List Bytes)) : Bytes :=
  let width (i : Nat) : Nat := ((rows.filterMap fun r => r[i]?).map List.length).foldl max 0
  rows.flatMap fun r =>
    (r.zipIdx.flatMap fun (cell, i) =>
      if i + 1 = r.length then cell
      else cell ++ List.replicate (width i + columnGap - cell.length) (ch ' ')) ++ [newline]

/-- Names in a cell of a table. -/
def cellOf (names : List Bytes) : Bytes := if names.isEmpty then "-" else join ", " names

/-- **The table of a catalog.** -/
def listing (c : Catalog) : Bytes :=
  table (["MODULE", "SIZE", "IMPORTS", "COMPONENTS"] :: c.refs.map fun (r : Reference) =>
    [r.path, Bytes.ofNat r.size, cellOf r.imports, cellOf (r.components.map Component.name)])

end Catalog

end Stencil

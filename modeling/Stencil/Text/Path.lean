import Stencil.Text.Utf8

/-!
# Slash-separated paths

A path is a byte string whose segments are separated by slashes. `clean` brings
it to its shortest equivalent form by the segments alone, without looking at any
file system: empty segments and `.` disappear, `..` takes the segment before it
away, and at the root `..` has nothing to take. The other operations are stated
through it.
-/

namespace Stencil.Path

open Bytes

/-- Whether a path starts at the root. -/
def isAbs (p : Bytes) : Bool := startsWith p [slash]

/-- One segment added to the segments kept so far, which are listed last first. -/
def step (rooted : Bool) (kept : List Bytes) (seg : Bytes) : List Bytes :=
  if seg = [] || seg = "." then kept
  else if seg = ".." then
    match kept with
    | [] => if rooted then [] else [seg]
    | last :: rest => if last = seg then seg :: kept else rest
  else seg :: kept

/-- The segments of the shortest form of a path. -/
def segments (p : Bytes) : List Bytes :=
  ((splitOn slash p).foldl (step (isAbs p)) []).reverse

/-- **The shortest equivalent form of a path**; `.` for the empty path. -/
def clean (p : Bytes) : Bytes :=
  if isAbs p then slash :: join [slash] (segments p)
  else if (segments p).isEmpty then "."
  else join [slash] (segments p)

/-- The path of `p` seen from the directory `dir`. -/
def joinTwo (dir p : Bytes) : Bytes :=
  if dir.isEmpty && p.isEmpty then []
  else if dir.isEmpty then clean p
  else if p.isEmpty then clean dir
  else clean (dir ++ [slash] ++ p)

/-- A path without the slashes at its end. -/
def dropTrailing (p : Bytes) : Bytes := (p.reverse.dropWhile (· = slash)).reverse

/-- The last segment of a path, `.` for the empty path and `/` for the root. -/
def base (p : Bytes) : Bytes :=
  if p.isEmpty then "."
  else
    let q := dropTrailing p
    if q.isEmpty then [slash] else (q.reverse.takeWhile (· ≠ slash)).reverse

/-- The path without what follows its last slash, in its shortest form. -/
def dir (p : Bytes) : Bytes := clean (p.reverse.dropWhile (· ≠ slash)).reverse

/-- The suffix of the last segment from its last dot on; empty without a dot. -/
def ext (p : Bytes) : Bytes :=
  let last := (p.reverse.takeWhile (· ≠ slash)).reverse
  match cutLast? (ch '.') last with
  | some (_, e) => ch '.' :: e
  | none => []

/-- The segments after those that two lists have in common. -/
def dropCommon : List Bytes → List Bytes → List Bytes × List Bytes
  | a :: as, b :: bs => if a = b then dropCommon as bs else (a :: as, b :: bs)
  | as, bs => (as, bs)

/-- **The path of `p` as seen from the directory `dir`**, as far as that can be known: not
if only one of them starts at the root, or if the directory leads upwards by an unknown
name. -/
def relative? (dir p : Bytes) : Option Bytes :=
  if isAbs dir ≠ isAbs p then none
  else
    let (up, down) := dropCommon (segments dir) (segments p)
    if up.head? = some (Bytes.ofString "..") then none
    else
      let segs := up.map (fun _ => Bytes.ofString "..") ++ down
      some (if segs.isEmpty then "." else join [slash] segs)

/-- Whether a path stays below where it starts. -/
def isLocal (p : Bytes) : Bool :=
  !isAbs p && !p.isEmpty && (segments p).head? ≠ some (Bytes.ofString "..")

end Stencil.Path

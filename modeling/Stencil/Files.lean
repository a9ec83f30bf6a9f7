import Stencil.Text.Path

/-!
# Files

The files that a command can see are a tree of directories with one of them as the working
directory. Names in a directory are unique and sorted.

A path is followed name by name: every name but the last has to be a directory, two dots
lead to the directory above, and what is missing or no directory is an error with the
wording of the system.
-/

namespace Stencil

open Bytes

/-- **A file or a directory.** -/
inductive FileNode where
  /-- A file with a text. -/
  | file (name text : Bytes)
  /-- A directory with what is in it, by ascending name. -/
  | dir (name : Bytes) (children : List FileNode)
  deriving Inhabited

namespace FileNode

/-- The name of a file or directory. -/
def name : FileNode → Bytes
  | .file n _ => n
  | .dir n _ => n

/-- Whether it is a directory. -/
def isDir : FileNode → Bool
  | .dir _ _ => true
  | .file _ _ => false

/-- What is at a path of names below a node. -/
def at? : List Bytes → FileNode → Option FileNode
  | [], n => some n
  | seg :: path, .dir _ children =>
    match children.find? fun c => c.name = seg with
    | some c => at? path c
    | none => none
  | _ :: _, .file _ _ => none

/-- Nodes with one more, in its place; a node of the same name gives way. -/
def insert (n : FileNode) : List FileNode → List FileNode
  | [] => [n]
  | m :: ms =>
    if n.name = m.name then n :: ms
    else if Bytes.le n.name m.name then n :: m :: ms
    else m :: insert n ms

/-- Nodes with another list of nodes for the directory at a path of names. -/
def change (f : List FileNode → List FileNode) : List Bytes → List FileNode → List FileNode
  | [], ms => f ms
  | seg :: path, ms =>
    ms.map fun m =>
      match m with
      | .dir n children => if n = seg then .dir n (change f path children) else m
      | .file _ _ => m

end FileNode

/-- **Why something cannot be done with a path.** -/
inductive FileError where
  /-- There is nothing at the path. -/
  | noEntry
  /-- Something on the path is no directory. -/
  | notDirectory
  /-- There is a directory at the path. -/
  | isDirectory
  deriving DecidableEq, Repr

/-- The wording of the system. -/
def FileError.message : FileError → Bytes
  | .noEntry => "no such file or directory"
  | .notDirectory => "not a directory"
  | .isDirectory => "is a directory"

/-- What is said when something cannot be done with a path. -/
def FileError.about (verb path : Bytes) (e : FileError) : Bytes :=
  verb ++ " " ++ path ++ ": " ++ e.message

/-- **The files that a command can see.** -/
structure Files where
  /-- What is below the root. -/
  entries : List FileNode := []
  /-- The path of the working directory. -/
  workdir : Bytes := "/"

namespace Files

/-- What is at a path of names. -/
def node? (f : Files) (path : List Bytes) : Option FileNode := (FileNode.dir [] f.entries).at? path

/-- Follows names from a path, whose names are in reverse. -/
def walk (f : Files) : List Bytes → List Bytes → Except FileError (List Bytes)
  | here, [] => .ok here
  | here, seg :: path =>
    match f.node? here.reverse with
    | none => .error .noEntry
    | some (.file _ _) => .error .notDirectory
    | some (.dir _ _) =>
      if seg.isEmpty || seg = "." then f.walk here path
      else if seg = ".." then f.walk here.tail path
      else f.walk (seg :: here) path

/-- **The names that lead from the root to a path.** -/
def locate (f : Files) (path : Bytes) : Except FileError (List Bytes) :=
  if path.isEmpty then .error .noEntry
  else
    let start := if Path.isAbs path then [] else (Path.segments f.workdir).reverse
    (f.walk start (splitOn slash path)).map List.reverse

/-- What is at a path. -/
def find (f : Files) (path : Bytes) : Except FileError FileNode :=
  match f.locate path with
  | .error e => .error e
  | .ok names =>
    match f.node? names with
    | none => .error .noEntry
    | some n => .ok n

/-- **Looks at a path.** -/
def stat (f : Files) (path : Bytes) : Except Bytes FileNode :=
  match f.find path with
  | .error e => .error (e.about "stat" path)
  | .ok n => .ok n

/-- **The text of the file** at a path. -/
def read (f : Files) (path : Bytes) : Except Bytes Bytes :=
  match f.find path with
  | .error e => .error (e.about "open" path)
  | .ok (.file _ text) => .ok text
  | .ok (.dir _ _) => .error (FileError.isDirectory.about "read" path)

/-- The files with a node at a path of names, whose directory is there. -/
def put (f : Files) (names : List Bytes) (node : Bytes → FileNode) : Files :=
  match names.getLast? with
  | none => f
  | some last =>
    { f with entries := FileNode.change (FileNode.insert (node last)) names.dropLast f.entries }

/-- **Writes a file.** -/
def write (f : Files) (path text : Bytes) : Except Bytes Files :=
  match f.locate path with
  | .error e => .error (e.about "open" path)
  | .ok names =>
    match f.node? names with
    | some (.dir _ _) => .error (FileError.isDirectory.about "open" path)
    | _ => .ok (f.put names fun n => .file n text)

/-- The paths on the way to a path in its shortest form, and the path itself. -/
def steps (path : Bytes) : List Bytes :=
  let start : Bytes := if Path.isAbs path then [slash] else []
  let segs := Path.segments path
  (List.range segs.length).map fun i => start ++ join [slash] (segs.take (i + 1))

/-- **Makes a directory** and those it is in, as far as they are missing. -/
def makeDir (f : Files) (path : Bytes) : Except Bytes Files :=
  (steps path).foldlM (fun (f : Files) p =>
    match f.find p with
    | .ok (.dir _ _) => .ok f
    | .ok (.file _ _) => .error (FileError.notDirectory.about "mkdir" p)
    | .error _ =>
      match f.locate p with
      | .error e => .error (e.about "mkdir" p)
      | .ok names => .ok (f.put names fun n => .dir n [])) f

/-- Writes a file, and makes the directories it is in. -/
def place (f : Files) (path text : Bytes) : Except Bytes Files :=
  match f.makeDir (Path.dir path) with
  | .error e => .error e
  | .ok f => f.write path text

/-- The files without what is at a path. -/
def remove (f : Files) (path : Bytes) : Files :=
  match f.locate path with
  | .error _ => f
  | .ok names =>
    match names.getLast? with
    | none => f
    | some last =>
      { f with
        entries := FileNode.change (fun ms => ms.filter fun m => m.name ≠ last) names.dropLast
          f.entries }

end Files

/-! ## Differences -/

namespace FileNode

mutual

/-- What is new or other at a node, given what was there and the path of the directory it
is in: the path of each new directory, and of each new or other file with its text. -/
def changesFrom (path : Bytes) (old : List FileNode) : FileNode → List (Bytes × Option Bytes)
  | .file n text =>
    match old.find? fun m => m.name = n with
    | some (.file _ was) => if was = text then [] else [(path ++ [slash] ++ n, some text)]
    | _ => [(path ++ [slash] ++ n, some text)]
  | .dir n children =>
    match old.find? fun m => m.name = n with
    | some (.dir _ was) => changesFromAll (path ++ [slash] ++ n) was children
    | _ => (path ++ [slash] ++ n, none) :: changesFromAll (path ++ [slash] ++ n) [] children

/-- What is new or other at several nodes. -/
def changesFromAll (path : Bytes) (old : List FileNode) :
    List FileNode → List (Bytes × Option Bytes)
  | [] => []
  | m :: ms => changesFrom path old m ++ changesFromAll path old ms

end

mutual

/-- The paths and texts of the files at and below a node, in order. -/
def textsBelow (path : Bytes) : FileNode → List (Bytes × Bytes)
  | .file n text => [(path ++ n, text)]
  | .dir n children => textsBelowAll (path ++ n ++ [slash]) children

/-- The paths and texts of the files at and below several nodes, in order. -/
def textsBelowAll (path : Bytes) : List FileNode → List (Bytes × Bytes)
  | [] => []
  | m :: ms => textsBelow path m ++ textsBelowAll path ms

end

end FileNode

namespace Files

/-- **What has to be done to get from some files to others**, as far as nothing is removed:
directories to make, and files to write. -/
def changes (old new : Files) : List (Bytes × Option Bytes) :=
  FileNode.changesFromAll [] old.entries new.entries

/-- **The files below a directory**, by their paths from there, in order. -/
def textsIn (f : Files) (path : Bytes) : List (Bytes × Bytes) :=
  match f.find path with
  | .ok (.dir _ children) => FileNode.textsBelowAll [] children
  | _ => []

end Files

end Stencil

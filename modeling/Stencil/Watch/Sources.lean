import Stencil.Compile.Batch
import Stencil.Failure
import Stencil.Files
import Stencil.Watch.Change

/-!
# Sources below a directory

A batch can be all the component sources below a directory. They are collected in order of
their names, directory by directory, and hidden directories are left out. A watcher watches
the directories that can hold such sources.

A source is known in its batch by its path below the directory.
-/

namespace Stencil.Watch

open Bytes

/-- Whether a path might lead out of where it starts. -/
def isTraversal (path : Bytes) : Bool := Bytes.contains path "../" || path = ".."

/-- **The directory at a path**: the path in its shortest form and what is in the directory,
or why it is none. -/
def openDir (f : Files) (path : Bytes) : Except Bytes (Bytes × List FileNode) :=
  if isTraversal path then .error ("path contains directory traversal: " ++ path)
  else
    let clean := Path.clean path
    match f.stat clean with
    | .error e => .error e
    | .ok (.file _ _) => .error (path ++ " is not a directory")
    | .ok (.dir _ children) => .ok (clean, children)

/-- Whether a directory of this name is left out. -/
def isHiddenDir (name : Bytes) : Bool := name.head? = some (ch '.')

mutual

/-- The sources at a node of a directory, given the path of the directory and its path
below the start. -/
def sourcesAt (path rel : Bytes) : FileNode → List SourceFile
  | .file name text =>
    if isSource (Path.joinTwo path name) && isVisible name then [⟨rel ++ [slash] ++ name, text⟩]
    else []
  | .dir name children =>
    if isHiddenDir name then []
    else sourcesAtAll (Path.joinTwo path name) (rel ++ [slash] ++ name) children

/-- The sources at several nodes of a directory. -/
def sourcesAtAll (path rel : Bytes) : List FileNode → List SourceFile
  | [] => []
  | n :: ns => sourcesAt path rel n ++ sourcesAtAll path rel ns

end

mutual

/-- The paths of the directories at and below a node of a directory, without those that are
left out. -/
def dirsAt (path : Bytes) : FileNode → List Bytes
  | .file _ _ => []
  | .dir name children =>
    if isHiddenDir name then []
    else Path.joinTwo path name :: dirsAtAll (Path.joinTwo path name) children

/-- The paths of the directories at and below several nodes of a directory. -/
def dirsAtAll (path : Bytes) : List FileNode → List Bytes
  | [] => []
  | n :: ns => dirsAt path n ++ dirsAtAll path ns

end

/-- **The sources below a directory.** -/
def collectSources (f : Files) (root : Bytes) : Except Failure (List SourceFile) :=
  match openDir f root with
  | .error e => .error (.wrapIo "ERR_FILE_NOT_FOUND" "reading sources" (.plain e))
  | .ok (path, children) => .ok (sourcesAtAll path [] children)

/-- **The directories that are watched** for a directory. -/
def watchedDirs (f : Files) (root : Bytes) : Except Failure (List Bytes) :=
  match openDir f root with
  | .error e => .error (.remark "invalid root path" (some (.plain e)))
  | .ok (path, children) => .ok (path :: dirsAtAll path children)

end Stencil.Watch

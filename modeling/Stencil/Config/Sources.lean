import Stencil.Config.Setting

/-!
# Where settings come from

A setting has a name such as `server.port`: a path of names with dots between them. It can be
set by the program itself, by a flag of the command line, by a variable of the environment,
by a configuration file, and by default, and the first of these that has it wins.

A source can also stand in the way of later ones: if it has something other than a map at
`server`, nothing below `server` is looked for behind it.
-/

namespace Stencil

open Bytes

/-- The text with every letter, also beyond ASCII where that gives an ASCII letter, as it
is spelled in names of variables. -/
def variableName (start key : Bytes) : Bytes :=
  (upperText (start ++ "_" ++ key)).map fun c => if c = ch '.' then ch '_' else c

/-- **The sources of settings**, the strongest first. -/
structure Sources where
  /-- What the program sets. -/
  overrides : Setting := .map []
  /-- What flags set, by the full name of the setting. -/
  flags : List (Bytes × Setting) := []
  /-- The first part of the names of variables. -/
  variablePrefix : Bytes := []
  /-- The variables of the environment; none are looked at without a first part. -/
  environment : List (Bytes × Bytes) := []
  /-- What the configuration file says. -/
  file : Setting := .map []
  /-- What is so by default. -/
  defaults : Setting := .map []

namespace Sources

/-- The names on the path of a setting. -/
def pathOf (key : Bytes) : List Bytes := splitOn (ch '.') (lowerText key)

/-- Something that is there. -/
def present (v : Option Setting) : Option Setting :=
  v.filter fun v => !v.isNull

/-- Whether something other than a map stands on the way to a path. -/
def blocks (v : Setting) (path : List Bytes) : Bool :=
  go v (path.dropLast)
where
  /-- Follows a path. -/
  go (v : Setting) : List Bytes → Bool
    | [] => false
    | name :: path =>
      match present (v.member? name) with
      | none => false
      | some w => if w.isMap then go w path else true

/-- The value of a variable that is not empty. -/
def valueOfVariable? (s : Sources) (key : Bytes) : Option Bytes :=
  if s.variablePrefix.isEmpty then none
  else
    let name := variableName s.variablePrefix key
    ((s.environment.find? fun e => e.1 = name).map Prod.snd).filter fun v => !v.isEmpty

/-- Whether a variable is set for something on the way to a path. -/
def variableBlocks (s : Sources) (path : List Bytes) : Bool :=
  (List.range (path.length - 1)).any fun i =>
    (s.valueOfVariable? (join "." (path.take (i + 1)))).isSome

/-- The value at a path of a file, where a name may have dots in it. The longest name that
leads to a value wins. -/
def inFile : Nat → Setting → List Bytes → Option Setting
  | 0, _, _ => none
  | n + 1, v, path =>
    match v with
    | .map ms =>
      (List.range path.length).reverse.findSome? fun i =>
        match ms.find? fun (m : Bytes × Setting) => m.1 = join "." (path.take (i + 1)) with
        | none => none
        | some (_, w) =>
          if i + 1 = path.length then present (some w) else inFile n w (path.drop (i + 1))
    | .list l =>
      match path with
      | [] => none
      | name :: rest =>
        match (toNat? name).bind fun i => l[i]? with
        | none => none
        | some w => if rest.isEmpty then present (some w) else inFile n w rest
    | _ => none

/-- **The value of a setting.** -/
def find? (s : Sources) (key : Bytes) : Option Setting :=
  let path := pathOf key
  match present (s.overrides.at? path) with
  | some v => some v
  | none =>
    if blocks s.overrides path then none
    else
      match s.flags.find? fun f => f.1 = lowerText key with
      | some (_, v) => some v
      | none =>
        match s.valueOfVariable? key with
        | some t => some (.text t)
        | none =>
          if s.variableBlocks path then none
          else
            match inFile (path.length + 1) s.file path with
            | some v => some v
            | none =>
              if blocks s.file path then none
              else present (s.defaults.at? path)

/-! ## All settings -/

/-- Names with those of a map added, where names below a name that is already there are
left out. -/
def addKeys : Nat → List Bytes → List (Bytes × Setting) → Bytes → List Bytes
  | 0, keys, _, _ => keys
  | n + 1, keys, ms, start =>
    if !start.isEmpty && keys.contains start then keys
    else
      ms.foldl (fun keys (m : Bytes × Setting) =>
        let full : Bytes := if start.isEmpty then m.1 else start ++ "." ++ m.1
        match m.2 with
        | .map inner => addKeys n keys inner full
        | _ => if keys.contains full then keys else keys ++ [full]) keys

/-- The members of a map. -/
def membersOf : Setting → List (Bytes × Setting)
  | .map ms => ms
  | _ => []

/-- How deep maps are looked into. -/
def maxDepth : Nat := 100

/-- The full names of all settings. -/
def keys (s : Sources) : List Bytes :=
  let add (keys : List Bytes) (v : Setting) := addKeys maxDepth keys (membersOf v) []
  let own := add [] s.overrides
  let flagged := own ++ (s.flags.map Prod.fst).filter fun k => !own.contains k
  add (add flagged s.file) s.defaults

/-- **All settings together.** -/
def settings (s : Sources) : Setting :=
  s.keys.foldl (fun all k =>
    match s.find? k with
    | none => all
    | some v => all.put (pathOf k) v) (.map [])

end Sources

end Stencil
